import SmartAccountKit.Lib.Comparator
import SmartAccountKit.Lib.DoubleText
import SmartAccountKit.Lib.JsMap
import SmartAccountKit.Lib.JsonText

/-!
# JavaScript objects

Plain data as a JavaScript program holds it, its JSON form, and what is left of it
after it has been written as JSON and read again.
-/

namespace SmartAccountKit.Lib

/-- A value of plain data. The properties of an object stand in the order of its own keys. -/
inductive JsValue where
  | undefined
  | null
  | bool (value : Bool)
  | number (value : JsNumber)
  | string (value : String)
  | bytes (value : Bytes)
  | array (items : List JsValue)
  | object (properties : List (String × JsValue))

/-- An object, as the properties that were set on it. -/
abbrev JsObject := JsMap String JsValue

/-! ## Own keys -/

/-- The number of a key that is an array index. -/
def arrayIndex? (key : String) : Option ℕ :=
  let n := decimalValue key.toList
  if Nat.toDigits 10 n = key.toList ∧ n < 2 ^ 32 - 1 then some n else none

/-- Properties in the order of the own keys of an object: the array indices come first, and the other
keys in the order in which they were set. -/
def ownOrder {α : Type} (properties : List (String × α)) : List (String × α) :=
  sortBy (fun a b => (arrayIndex? a.1).getD 0 - (arrayIndex? b.1).getD 0)
    (properties.filter fun e => (arrayIndex? e.1).isSome) ++
  properties.filter fun e => !(arrayIndex? e.1).isSome

theorem ownOrder_perm {α : Type} (properties : List (String × α)) :
    (ownOrder properties).Perm properties := by
  have hsorted : (sortBy (fun a b => (arrayIndex? a.1).getD 0 - (arrayIndex? b.1).getD 0)
      (properties.filter fun e => (arrayIndex? e.1).isSome)).Perm
      (properties.filter fun e => (arrayIndex? e.1).isSome) := sortBy_perm _
  exact (hsorted.append_right _).trans (List.filter_append_perm _ _)

/-- Keys that are no array indices keep their order. -/
theorem ownOrder_eq_self {α : Type} {properties : List (String × α)}
    (h : ∀ e ∈ properties, arrayIndex? e.1 = none) : ownOrder properties = properties := by
  have hindices : properties.filter (fun e => (arrayIndex? e.1).isSome) = [] := by
    apply List.filter_eq_nil_iff.mpr
    intro e he
    rw [h e he]
    decide
  have hnames : properties.filter (fun e => !(arrayIndex? e.1).isSome) = properties := by
    apply List.filter_eq_self.mpr
    intro e he
    rw [h e he]
    rfl
  rw [ownOrder, hindices, hnames]
  rfl

/-- A map with its entries in the order of own keys. -/
def JsMap.inOwnOrder {α : Type} (m : JsMap String α) : JsMap String α where
  entries := ownOrder m.entries
  distinct := ((ownOrder_perm m.entries).map Prod.fst).nodup_iff.mpr m.distinct

@[simp] theorem JsMap.get_inOwnOrder {α : Type} (m : JsMap String α) (key : String) :
    m.inOwnOrder.get key = m.get key :=
  JsMap.get_congr (ownOrder_perm m.entries) key

namespace JsObject

/-- The value of a property, or `undefined`. -/
def read (o : JsObject) (name : String) : JsValue := (o.get name).getD .undefined

/-- `{ ...o }`. -/
def spread (o : JsObject) : JsObject := o.inOwnOrder

/-- `{ ...o, ...updates }`. -/
def assign (o updates : JsObject) : JsObject := o.spread.setAll updates.inOwnOrder.entries

@[simp] theorem read_spread (o : JsObject) (name : String) : o.spread.read name = o.read name := by
  rw [read, spread, JsMap.get_inOwnOrder, read]

theorem read_set (o : JsObject) (name key : String) (value : JsValue) :
    JsObject.read (o.set name value) key = if key = name then value else o.read key := by
  rw [read, JsMap.get_set]
  split_ifs
  · rfl
  · rfl

theorem read_assign (o updates : JsObject) (name : String) :
    (o.assign updates).read name = ((updates.get name).or (o.get name)).getD .undefined := by
  rw [assign, read, JsMap.get_setAll, JsMap.get_inOwnOrder, spread, JsMap.get_inOwnOrder]

end JsObject

/-! ## Writing -/

/-- The properties of a `Uint8Array` in its JSON form. -/
def indexedBytes (bs : Bytes) : List (String × JsonValue) :=
  bs.zipIdx.map fun (b, i) =>
    (String.ofList (Nat.toDigits 10 i), .number (numeralOf b.toNat).text)

mutual

/-- The JSON form of a value, as `JSON.stringify` writes it. A property without one is left out. -/
def JsValue.toJson? : JsValue → Option JsonValue
  | .undefined => none
  | .null => some .null
  | .bool value => some (.bool value)
  | .number (.finite x) => some (.number (numeralOf x).text)
  | .number _ => some .null
  | .string value => some (.string value)
  | .bytes value => some (.object (indexedBytes value))
  | .array items => some (.array (itemsToJson items))
  | .object properties => some (.object (propertiesToJson properties))

def itemsToJson : List JsValue → List JsonValue
  | [] => []
  | item :: items => item.toJson?.getD .null :: itemsToJson items

def propertiesToJson : List (String × JsValue) → List (String × JsonValue)
  | [] => []
  | (name, value) :: properties =>
    match value.toJson? with
    | none => propertiesToJson properties
    | some json => (name, json) :: propertiesToJson properties

end

/-- The JSON form of an object. -/
def JsObject.toJson (o : JsObject) : JsonValue := .object (propertiesToJson o.inOwnOrder.entries)

theorem mem_propertiesToJson {properties : List (String × JsValue)} {name : String}
    {json : JsonValue} :
    (name, json) ∈ propertiesToJson properties ↔
      ∃ value, (name, value) ∈ properties ∧ value.toJson? = some json := by
  induction properties with
  | nil => simp [propertiesToJson]
  | cons e properties ih =>
    obtain ⟨key, value⟩ := e
    rw [propertiesToJson]
    cases hvalue : value.toJson? with
    | none =>
      rw [ih]
      constructor
      · rintro ⟨v, hv, hjson⟩
        exact ⟨v, List.mem_cons_of_mem _ hv, hjson⟩
      · rintro ⟨v, hv, hjson⟩
        rcases List.mem_cons.mp hv with heq | hmem
        · rw [(Prod.mk.inj heq).2, hvalue] at hjson
          exact absurd hjson.symm (Option.some_ne_none json)
        · exact ⟨v, hmem, hjson⟩
    | some head =>
      rw [List.mem_cons, ih]
      constructor
      · rintro (heq | ⟨v, hv, hjson⟩)
        · obtain ⟨rfl, rfl⟩ := Prod.mk.inj heq
          exact ⟨value, List.mem_cons_self, hvalue⟩
        · exact ⟨v, List.mem_cons_of_mem _ hv, hjson⟩
      · rintro ⟨v, hv, hjson⟩
        rcases List.mem_cons.mp hv with heq | hmem
        · obtain ⟨rfl, rfl⟩ := Prod.mk.inj heq
          rw [hvalue] at hjson
          exact Or.inl (by rw [Option.some.inj hjson])
        · exact Or.inr ⟨v, hmem, hjson⟩

theorem propertiesToJson_sublist (properties : List (String × JsValue)) :
    ((propertiesToJson properties).map Prod.fst).Sublist (properties.map Prod.fst) := by
  induction properties with
  | nil => exact List.Sublist.refl _
  | cons e properties ih =>
    obtain ⟨key, value⟩ := e
    rw [propertiesToJson]
    cases value.toJson? with
    | none => exact ih.cons key
    | some head => exact ih.cons_cons key

/-- The JSON form of every value is well formed. -/
theorem JsValue.wellFormed_toJson? (v : JsValue) : ∀ j, v.toJson? = some j → j.WellFormed := by
  apply @JsValue.rec (fun v => ∀ j, v.toJson? = some j → j.WellFormed)
    (fun items => ∀ j ∈ itemsToJson items, j.WellFormed)
    (fun properties => ∀ e ∈ propertiesToJson properties, e.2.WellFormed)
    (fun property => ∀ j, property.2.toJson? = some j → j.WellFormed)
  case undefined => exact fun j h => absurd h.symm (Option.some_ne_none j)
  case null => exact fun j h => Option.some.inj h ▸ .null
  case bool => exact fun value j h => Option.some.inj h ▸ .bool value
  case number =>
    intro value j h
    cases value with
    | finite x => exact Option.some.inj h ▸ .number (numeralOf x)
    | infinite negative => exact Option.some.inj h ▸ .null
    | nan => exact Option.some.inj h ▸ .null
  case string => exact fun value j h => Option.some.inj h ▸ .string value
  case bytes =>
    intro value j h
    rw [← Option.some.inj h]
    apply JsonValue.WellFormed.object
    intro e he
    obtain ⟨b, -, rfl⟩ := List.mem_map.mp he
    exact .number _
  case array =>
    intro items ih j h
    rw [← Option.some.inj h]
    exact .array ih
  case object =>
    intro properties ih j h
    rw [← Option.some.inj h]
    exact .object ih
  case nil => exact fun j hj => absurd hj List.not_mem_nil
  case cons =>
    intro item items hitem hitems j hj
    rw [itemsToJson] at hj
    rcases List.mem_cons.mp hj with rfl | hmem
    · cases hjson : item.toJson? with
      | none => exact .null
      | some head => exact hitem head hjson
    · exact hitems j hmem
  -- the properties of an object
  case nil => exact fun e he => absurd he List.not_mem_nil
  case cons =>
    rintro ⟨name, value⟩ properties hproperty hproperties e he
    rw [propertiesToJson] at he
    cases hjson : value.toJson? with
    | none =>
      rw [hjson] at he
      exact hproperties e he
    | some head =>
      rw [hjson] at he
      rcases List.mem_cons.mp he with rfl | hmem
      · exact hproperty head hjson
      · exact hproperties e hmem
  case mk => exact fun name value ih => ih

theorem JsObject.wellFormed_toJson (o : JsObject) : o.toJson.WellFormed := by
  apply JsonValue.WellFormed.object
  rintro ⟨name, json⟩ he
  obtain ⟨value, -, hjson⟩ := mem_propertiesToJson.mp he
  exact value.wellFormed_toJson? json hjson

/-! ## Reading -/

mutual

/-- What `JSON.parse` makes of a JSON value. Of properties with one name the last one counts. -/
def JsonValue.toJs : JsonValue → JsValue
  | .null => .null
  | .bool value => .bool value
  | .number text => .number (textNumber (String.ofList text))
  | .string value => .string value
  | .array items => .array (itemsToJs items)
  | .object fields => .object (ownOrder (JsMap.ofEntries (fieldsToJs fields)).entries)

def itemsToJs : List JsonValue → List JsValue
  | [] => []
  | item :: items => item.toJs :: itemsToJs items

def fieldsToJs : List (String × JsonValue) → List (String × JsValue)
  | [] => []
  | (name, value) :: fields => (name, value.toJs) :: fieldsToJs fields

end

theorem fieldsToJs_eq_map (fields : List (String × JsonValue)) :
    fieldsToJs fields = fields.map fun e => (e.1, e.2.toJs) := by
  induction fields with
  | nil => rfl
  | cons e fields ih => rw [List.map_cons, ← ih, fieldsToJs]

/-- The object of some fields of a JSON text. -/
def JsObject.ofFields (fields : List (String × JsonValue)) : JsObject :=
  JsMap.ofEntries (fieldsToJs fields)

/-- The texts of the code units of a text. Half of a surrogate pair is the replacement character. -/
def codeUnitTexts (text : String) : List String :=
  text.toList.flatMap fun c =>
    if c.toNat < 0x10000 then [String.ofList [c]]
    else [String.ofList [Char.ofNat 0xfffd], String.ofList [Char.ofNat 0xfffd]]

/-- Values under their indices. -/
def indexed {α : Type} (values : List α) : List (String × α) :=
  values.zipIdx.map fun (value, i) => (String.ofList (Nat.toDigits 10 i), value)

namespace JsonValue

/-- `Object.entries(value)` of a parsed value, or nothing where it throws. -/
def entries? : JsonValue → Option (List (String × JsonValue))
  | null => none
  | bool _ => some []
  | number _ => some []
  | string value => some (indexed ((codeUnitTexts value).map .string))
  | array items => some (indexed items)
  | object fields => some (ownOrder (JsMap.ofEntries fields).entries)

/-- `{ ...value }` of a parsed value. -/
def spread (value : JsonValue) : JsObject := JsObject.ofFields (value.entries?.getD [])

/-- `value.name` of a parsed value, or nothing where it throws. The inner value is missing where the
property is `undefined`. -/
def property? (name : String) : JsonValue → Option (Option JsonValue)
  | null => none
  | object fields => some (field name (object fields))
  | _ => some none

end JsonValue

/-! ## Bytes -/

/-- The integer part of a number. -/
def JsNumber.truncate : JsNumber → Option ℤ
  | finite x => some (x.num.tdiv x.den)
  | _ => none

/-- The byte that a number is stored as. -/
def JsNumber.toUint8 (x : JsNumber) : UInt8 := UInt8.ofNat ((x.truncate.getD 0) % 256).toNat

/-- The length that a number asks for. A negative or too large one is a `RangeError`. -/
def lengthOf? (maxLength : ℕ) : JsNumber → Option ℕ
  | .infinite _ => none
  | .nan => some 0
  | .finite x =>
    let n := x.num.tdiv x.den
    if 0 ≤ n ∧ n ≤ maxLength then some n.toNat else none

/-- The length of an object that is read like an array, where a negative one is zero. -/
def arrayLength? (maxLength : ℕ) : JsNumber → Option ℕ
  | .infinite negative => if negative then some 0 else none
  | .nan => some 0
  | .finite x => lengthOf? maxLength (.finite (max x 0))

/-- The byte that a parsed item is stored as, or nothing where its conversion throws. -/
def itemByte? (item : Option JsonValue) : Option UInt8 :=
  match item with
  | none => some 0
  | some item => item.toNumber?.map JsNumber.toUint8

/-- `new Uint8Array(value)` of a parsed value, or nothing where it throws. An engine allocates arrays
up to a length of its own, which no list in a text comes near. -/
def newUint8Array (maxLength : ℕ) : Option JsonValue → Option Bytes
  | none => some []
  | some (.array items) => items.mapM fun item => itemByte? (some item)
  | some (.object fields) => do
    let size ← match JsonValue.field "length" (.object fields) with
      | none => some 0
      | some value => value.toNumber?.bind (arrayLength? maxLength)
    (List.range size).mapM fun i =>
      itemByte? (JsonValue.field (String.ofList (Nat.toDigits 10 i)) (.object fields))
  | some value => do
    let size ← value.toNumber?.bind (lengthOf? maxLength)
    return List.replicate size 0

/-- The numbers of some bytes, as `Array.from` gives them. -/
def byteNumbers (bs : Bytes) : List JsValue := bs.map fun b => .number (.ofNat b.toNat)

/-! ## Reloading -/

theorem isDouble_natCast {n : ℕ} (h : n < 2 ^ 53) : IsDouble n := nearestDouble_natCast h

theorem textNumber_numeralOf {x : ℚ} (h : IsDouble x) :
    textNumber (String.ofList (numeralOf x).text) = .finite x :=
  textNumber_numberText h

theorem toUint8_ofNat (b : UInt8) : (JsNumber.ofNat b.toNat).toUint8 = b := by
  have hb := b.toNat_lt
  have htruncate : (JsNumber.ofNat b.toNat).truncate = some (b.toNat : ℤ) := by
    show some (((b.toNat : ℚ).num).tdiv ((b.toNat : ℚ).den : ℤ)) = _
    rw [Rat.num_natCast, Rat.den_natCast]
    exact congrArg some (Int.tdiv_one _)
  have hmod : ((b.toNat : ℤ) % 256).toNat = b.toNat := by omega
  rw [JsNumber.toUint8, htruncate, Option.getD_some, hmod, UInt8.ofNat_toNat]

/-- The numbers of some bytes, written and read again, make the bytes. -/
theorem newUint8Array_byteNumbers (maxLength : ℕ) (bs : Bytes) :
    newUint8Array maxLength (some (.array (itemsToJson (byteNumbers bs)))) = some bs := by
  show (itemsToJson (byteNumbers bs)).mapM (fun item => itemByte? (some item)) = some bs
  induction bs with
  | nil => rfl
  | cons b bs ih =>
    have hb := b.toNat_lt
    have hnumber := textNumber_numeralOf (isDouble_natCast (show b.toNat < 2 ^ 53 by omega))
    have hitem : itemByte? (some (.number (numeralOf b.toNat).text)) = some b := by
      show some ((textNumber (String.ofList (numeralOf b.toNat).text)).toUint8) = _
      rw [hnumber]
      exact congrArg some (toUint8_ofNat b)
    have hcons : itemsToJson (byteNumbers (b :: bs)) =
        .number (numeralOf b.toNat).text :: itemsToJson (byteNumbers bs) := rfl
    rw [hcons, List.mapM_cons, hitem, ih]
    rfl

/-- The values that are written without loss: every number is a double, and an array holds texts. -/
inductive JsValue.Plain : JsValue → Prop where
  | undefined : undefined.Plain
  | null : null.Plain
  | bool (value : Bool) : (bool value).Plain
  | number {x : ℚ} (h : IsDouble x) : (number (.finite x)).Plain
  | string (value : String) : (string value).Plain
  | texts (values : List String) : (array (values.map .string)).Plain

/-- What a value becomes when it is written and read again. -/
def JsValue.reload (v : JsValue) : JsValue := (v.toJson?.map JsonValue.toJs).getD .undefined

theorem JsValue.Plain.reload_eq {v : JsValue} (h : v.Plain) : v.reload = v := by
  cases h with
  | undefined => rfl
  | null => rfl
  | bool value => rfl
  | number hx =>
    show JsValue.number (textNumber _) = _
    rw [textNumber_numeralOf hx]
  | string value => rfl
  | texts values =>
    have htexts : itemsToJs (itemsToJson (values.map .string)) = values.map .string := by
      induction values with
      | nil => rfl
      | cons value values ih =>
        show JsValue.string value :: itemsToJs (itemsToJson (values.map .string)) = _
        rw [ih, List.map_cons]
    exact congrArg JsValue.array htexts

/-- What `Date.now()` gives. The milliseconds of a date are bounded. -/
structure Timestamp where
  milliseconds : ℕ
  inRange : milliseconds ≤ 8640000000000000

namespace Timestamp

def toNumber (t : Timestamp) : JsNumber := .ofNat t.milliseconds

end Timestamp

namespace JsObject

variable (o : JsObject)

/-- The fields of an object in its JSON form. -/
def jsonFields : List (String × JsonValue) := propertiesToJson o.inOwnOrder.entries

theorem jsonFields_distinct : (o.jsonFields.map Prod.fst).Nodup :=
  o.inOwnOrder.distinct.sublist (propertiesToJson_sublist _)

theorem mem_jsonFields {name : String} {json : JsonValue} :
    (name, json) ∈ o.jsonFields ↔ (o.get name).bind JsValue.toJson? = some json := by
  rw [jsonFields, mem_propertiesToJson, Option.bind_eq_some_iff]
  apply exists_congr
  intro value
  rw [← JsMap.get_inOwnOrder, JsMap.get_eq_some_iff]

/-- A property of an object that is written and read again. -/
theorem get_ofFields (name : String) :
    (ofFields o.jsonFields).get name =
      (o.get name).bind fun value => value.toJson?.map JsonValue.toJs := by
  have hkeys : ((fieldsToJs o.jsonFields).map Prod.fst).Nodup := by
    rw [fieldsToJs_eq_map, List.map_map]
    exact o.jsonFields_distinct
  have hget := JsMap.get_ofEntries ⟨fieldsToJs o.jsonFields, hkeys⟩ name
  ext value
  rw [ofFields, hget, JsMap.get_eq_some_iff]
  show (name, value) ∈ fieldsToJs o.jsonFields ↔ _
  rw [fieldsToJs_eq_map, List.mem_map]
  constructor
  · rintro ⟨⟨key, json⟩, hmem, heq⟩
    obtain ⟨rfl, rfl⟩ := Prod.mk.inj heq
    obtain ⟨v, hv, hjson⟩ := Option.bind_eq_some_iff.mp (o.mem_jsonFields.mp hmem)
    rw [hv, Option.bind_some, hjson, Option.map_some]
  · intro h
    obtain ⟨v, hv, hmap⟩ := Option.bind_eq_some_iff.mp h
    obtain ⟨json, hjson, rfl⟩ := Option.map_eq_some_iff.mp hmap
    refine ⟨(name, json), o.mem_jsonFields.mpr ?_, rfl⟩
    rw [hv, Option.bind_some, hjson]

theorem read_ofFields (name : String) : (ofFields o.jsonFields).read name = (o.read name).reload := by
  rw [read, get_ofFields, read]
  cases o.get name with
  | none => rfl
  | some value => rfl

/-- A field of the JSON form is found by its name. -/
theorem field_jsonFields {name : String} {json : JsonValue}
    (h : (o.get name).bind JsValue.toJson? = some json) :
    JsonValue.field name (.object o.jsonFields) = some json := by
  have hmem := o.mem_jsonFields.mpr h
  show (o.jsonFields.reverse.find? fun e => e.1 == name).map Prod.snd = some json
  cases hfind : o.jsonFields.reverse.find? fun e => e.1 == name with
  | none =>
    have hnone := List.find?_eq_none.mp hfind (name, json) (List.mem_reverse.mpr hmem)
    exact absurd (beq_self_eq_true name) hnone
  | some e =>
    have hname : e.1 = name := by simpa using List.find?_some hfind
    have hfound := List.mem_reverse.mp (List.mem_of_find?_eq_some hfind)
    have hsame := List.inj_on_of_nodup_map o.jsonFields_distinct hfound hmem hname
    rw [hsame]
    rfl

end JsObject

end SmartAccountKit.Lib
