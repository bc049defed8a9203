import SmartAccountKit.AuthEntryInput

/-!
# The form of an entry does not matter

Signing an entry comes to the same whatever form the entry is passed in, and
what it comes to is what the kit's checks and digests say of the entry's fields.
No object of the app changes, in any run.
-/

namespace SmartAccountKit
open Lib Lib.Memory

namespace AuthEntryClass

variable {K : AuthEntryClass} {reply : (r : Request) → Reply r}

/-! ## Texts -/

theorem decodeText_eq_ok (hK : K.Lawful) {text fieldName : String} {v : K.Value} :
    K.decodeText text fieldName = .ok v ↔
      K.Encodable v ∧ trim text = toBase64 (K.toXDR v) := by
  unfold decodeText
  dsimp only
  constructor
  · intro h
    split_ifs at h with hpattern
    cases hdecode : K.fromXDR (fromBase64 (trim text)) with
    | error cause =>
      rw [hdecode] at h
      cases h
    | ok decoded =>
      rw [hdecode] at h
      dsimp only at h
      split_ifs at h with hcanonical
      rw [← Except.ok.inj h]
      exact ⟨(hK.toXDR_fromXDR _ _ hdecode).1, (not_not.mp hcanonical).symm⟩
  · intro ⟨hencodable, htext⟩
    have hsome : toBase64 (K.toXDR v) ≠ "" :=
      mt toBase64_eq_empty.mp (hK.toXDR_ne_nil v hencodable)
    have hpattern := isBase64Text_toBase64 (K.toXDR v)
    rw [htext, if_neg (by simp [hsome, hpattern]), fromBase64_toBase64,
      hK.fromXDR_toXDR v hencodable]
    simp

/-- The texts of an entry: its canonical base64 text, with white space around it. -/
theorem decodeText_iff (hK : K.Lawful) {text fieldName : String} {v : K.Value} :
    K.decodeText text fieldName = .ok v ↔ K.Encodable v ∧ ∃ before after : List Char,
      (∀ c ∈ before, isSpace c = true) ∧ (∀ c ∈ after, isSpace c = true) ∧
        text.toList = before ++ ((toBase64 (K.toXDR v)).toList ++ after) := by
  rw [decodeText_eq_ok hK, trim_eq_iff fun _ hc => isSpace_toBase64 hc]

/-! ## Objects -/

section objects

variable {objects : List K.Value} {ref : ℕ} {v : K.Value}

theorem eval_readEntry (h : objects[ref]? = some v) :
    eval reply (K.readEntry ref) objects = (.ok v, objects) := eval_getObject h

theorem eval_updateEntry (h : objects[ref]? = some v) (f : K.Value → K.Value) :
    eval reply (K.updateEntry ref f) objects = (.ok (), objects.set ref (f v)) := by
  rw [updateEntry, Program.bind_eq, eval_bind_ok (eval_readEntry h), eval_setObject]

theorem getElem?_set_of (h : objects[ref]? = some v) (w : K.Value) :
    (objects.set ref w)[ref]? = some w := by
  have hlt : ref < objects.length := (List.getElem?_eq_some_iff.mp h).1
  rw [List.getElem?_set_self hlt]

theorem set_self (h : objects[ref]? = some v) : objects.set ref v = objects := by
  obtain ⟨hlt, rfl⟩ := List.getElem?_eq_some_iff.mp h
  exact List.set_getElem_self hlt

/-- Building a preimage leaves the object with the expiration that was hashed, or as it was. -/
theorem eval_buildSignaturePreimage (hK : K.Lawful) (h : objects[ref]? = some v)
    (networkPassphrase : String) (expiration : JsNumber) :
    ∃ w, eval reply (K.buildSignaturePreimage networkPassphrase ref expiration) objects =
        ((SmartAccountKit.buildSignaturePreimage networkPassphrase (K.view v) expiration).map
          Prod.snd, objects.set ref w) ∧
      ∀ entry preimage, SmartAccountKit.buildSignaturePreimage networkPassphrase (K.view v)
        expiration = .ok (entry, preimage) → K.view w = entry := by
  unfold buildSignaturePreimage SmartAccountKit.buildSignaturePreimage
  rw [Program.bind_eq, eval_bind_ok (eval_readEntry h), Program.bind_eq]
  cases hcredentials : getAddressCredentials (K.view v).credentials with
  | error e =>
    refine ⟨v, ?_, fun _ _ hok => by cases hok⟩
    rw [eval_bind_error eval_ofExcept, set_self h]
    rfl
  | ok credentials =>
    rw [eval_bind_ok eval_ofExcept, Program.bind_eq]
    cases hexpiration : normalizeSignatureExpirationLedger expiration with
    | error e =>
      refine ⟨v, ?_, fun _ _ hok => by cases hok⟩
      rw [eval_bind_error eval_ofExcept, set_self h]
      rfl
    | ok ledger =>
      refine ⟨K.setExpiration v ledger, ?_, fun entry preimage hok => ?_⟩
      · rw [eval_bind_ok eval_ofExcept, Program.bind_eq, eval_bind_ok (eval_updateEntry h _),
          Program.bind_eq, eval_bind_ok (eval_readEntry (getElem?_set_of h _)), eval_ofExcept,
          hK.view_setExpiration]
        simp only [except_ok_bind]
        cases buildAuthorizationEntryPreimage ((K.view v).setExpiration ledger) ledger
          networkPassphrase <;> rfl
      · simp only [except_ok_bind, except_bind_eq_ok, except_pure_eq_ok] at hok
        obtain ⟨_, -, hpair⟩ := hok
        rw [hK.view_setExpiration]
        exact congrArg Prod.fst hpair

/-- Computing a digest leaves the object with the expiration that was hashed, or as it was. -/
theorem eval_computeEntryAuthDigest (hK : K.Lawful) (h : objects[ref]? = some v)
    (networkPassphrase : String) (expiration : JsNumber) (contextRuleIds : List JsNumber)
    (scheme : AuthDigestScheme) :
    ∃ w, eval reply (K.computeEntryAuthDigest networkPassphrase ref expiration contextRuleIds
        scheme) objects =
        ((SmartAccountKit.computeEntryAuthDigest networkPassphrase (K.view v) expiration
          contextRuleIds scheme).map Prod.snd, objects.set ref w) ∧
      ∀ entry digest, SmartAccountKit.computeEntryAuthDigest networkPassphrase (K.view v) expiration
        contextRuleIds scheme = .ok (entry, digest) → K.view w = entry := by
  obtain ⟨w, hpreimage, hview⟩ :=
    @eval_buildSignaturePreimage K reply _ _ _ hK h networkPassphrase expiration
  refine ⟨w, ?_, fun entry digest hok => ?_⟩
  · rw [computeEntryAuthDigest, SmartAccountKit.computeEntryAuthDigest, buildSignaturePayload,
      Program.bind_eq]
    cases hbuilt : SmartAccountKit.buildSignaturePreimage networkPassphrase (K.view v)
      expiration with
    | error e =>
      rw [hbuilt] at hpreimage
      rw [eval_bind_error hpreimage]
      rfl
    | ok built =>
      rw [hbuilt] at hpreimage
      rw [eval_bind_ok hpreimage]
      obtain ⟨entry, preimage⟩ := built
      have hread := @eval_readEntry K reply _ _ _ (getElem?_set_of h w)
      have hsame : K.view w = entry := hview entry preimage hbuilt
      simp only [except_ok_bind, pure_bind]
      cases scheme with
      | legacyConcat =>
        dsimp only
        rw [Program.bind_eq]
        cases hdigest : buildLegacyAuthDigest (hash preimage.toXDR).1 contextRuleIds with
        | error e => rw [eval_bind_error eval_ofExcept]; rfl
        | ok authDigest => rw [eval_bind_ok eval_ofExcept]; rfl
      | preimageV1 =>
        dsimp only
        rw [Program.bind_eq, eval_bind_ok hread, Program.bind_eq, hsame]
        cases haccount : getAuthEntryAddress entry with
        | error e => rw [eval_bind_error eval_ofExcept]; rfl
        | ok account =>
          rw [eval_bind_ok eval_ofExcept, Program.bind_eq]
          simp only [except_ok_bind]
          cases hdigest : buildAuthDigestPreimage account (hash preimage.toXDR).1
            contextRuleIds with
          | error e => rw [eval_bind_error eval_ofExcept]; rfl
          | ok digestPreimage => rw [eval_bind_ok eval_ofExcept]; rfl
  · rw [SmartAccountKit.computeEntryAuthDigest, buildSignaturePayload] at hok
    simp only [except_bind_eq_ok, except_pure_eq_ok] at hok
    obtain ⟨⟨authEntry, payload⟩, ⟨⟨built, preimage⟩, hbuilt, hpayload⟩, hdigest⟩ := hok
    have hauth : built = authEntry := congrArg Prod.fst hpayload
    have hentry : authEntry = entry := by
      cases scheme with
      | legacyConcat =>
        obtain ⟨_, -, hpair⟩ := except_bind_eq_ok.mp hdigest
        exact congrArg Prod.fst (Except.ok.inj hpair)
      | preimageV1 =>
        obtain ⟨_, -, hrest⟩ := except_bind_eq_ok.mp hdigest
        obtain ⟨_, -, hpair⟩ := except_bind_eq_ok.mp hrest
        exact congrArg Prod.fst (Except.ok.inj hpair)
    rw [← hentry, ← hauth]
    exact hview built preimage hbuilt

/-- What signing an entry of a known scheme gives, in terms of its fields. -/
def signedEntry (reply : (r : Request) → Reply r) (entry : SorobanAuthorizationEntry)
    (scheme : AuthDigestScheme) (signers : List AuthDigestSigner)
    (options : SignAuthEntryWithSignersOptions) : Except JsError SorobanAuthorizationEntry := do
  let (authPayload, args) ← checkEntry entry scheme options
  let (signed, digest) ← args.compute
  let authPayload ← Program.answer reply
    (collectSignatures signers authPayload digest.authDigest args)
  let signature ← writeAuthPayload { authPayload with contextRuleIds := args.contextRuleIds }
  return signed.setSignature signature

theorem checkEntry_args {entry : SorobanAuthorizationEntry} {scheme : AuthDigestScheme}
    {options : SignAuthEntryWithSignersOptions} {authPayload : AuthPayload} {args : DigestArgs}
    (h : checkEntry entry scheme options = .ok (authPayload, args)) : args.entry = entry := by
  simp only [checkEntry, except_bind_eq_ok, except_pure_eq_ok] at h
  obtain ⟨_, -, _, -, _, -, _, -, _, -, _, -, _, -, _, -, hpair⟩ := h
  exact (congrArg (fun p : AuthPayload × DigestArgs => p.2.entry) hpair).symm

/-- Signing an object changes it to the signed entry; where it fails, the object alone has
changed. -/
theorem eval_signEntry (hK : K.Lawful) (h : objects[ref]? = some v) (scheme : AuthDigestScheme)
    (signers : List AuthDigestSigner) (options : SignAuthEntryWithSignersOptions) :
    ∃ w, eval reply (K.signEntry ref scheme signers options) objects =
        ((signedEntry reply (K.view v) scheme signers options).map fun _ => (), objects.set ref w) ∧
      ∀ signed, signedEntry reply (K.view v) scheme signers options = .ok signed →
        K.view w = signed := by
  unfold signEntry signedEntry
  rw [Program.bind_eq, eval_bind_ok (eval_readEntry h), Program.bind_eq]
  cases hcheck : checkEntry (K.view v) scheme options with
  | error e =>
    refine ⟨v, ?_, fun _ hok => by cases hok⟩
    rw [eval_bind_error eval_ofExcept, set_self h]
    rfl
  | ok checked =>
    obtain ⟨authPayload, args⟩ := checked
    obtain ⟨w, hdigest, hview⟩ := @eval_computeEntryAuthDigest K reply _ _ _ hK h
      args.networkPassphrase args.expiration args.contextRuleIds args.scheme
    rw [eval_bind_ok eval_ofExcept]
    dsimp only
    simp only [except_ok_bind, DigestArgs.compute, checkEntry_args hcheck]
    rw [Program.bind_eq]
    cases hcompute : SmartAccountKit.computeEntryAuthDigest args.networkPassphrase (K.view v)
      args.expiration args.contextRuleIds args.scheme with
    | error e =>
      rw [hcompute] at hdigest
      refine ⟨w, ?_, fun _ hok => by cases hok⟩
      rw [eval_bind_error hdigest]
      rfl
    | ok computed =>
      obtain ⟨entry, digest⟩ := computed
      rw [hcompute] at hdigest
      have hsame : K.view w = entry := hview entry digest hcompute
      rw [eval_bind_ok hdigest, Program.bind_eq]
      simp only [except_ok_bind]
      cases hpayload : Program.answer reply
        (collectSignatures signers authPayload digest.authDigest args) with
      | error e =>
        refine ⟨w, ?_, fun _ hok => by cases hok⟩
        rw [eval_bind_error (by rw [eval_withObjects, hpayload])]
        rfl
      | ok payload =>
        rw [eval_bind_ok (by rw [eval_withObjects, hpayload]), Program.bind_eq]
        simp only [except_ok_bind]
        cases hsignature : writeAuthPayload ⟨args.contextRuleIds, payload.signers⟩ with
        | error e =>
          refine ⟨w, ?_, fun _ hok => by cases hok⟩
          rw [eval_bind_error eval_ofExcept]
          rfl
        | ok signature =>
          refine ⟨K.setSignature w signature, ?_, fun signed hok => ?_⟩
          · rw [eval_bind_ok eval_ofExcept, eval_updateEntry (getElem?_set_of h w),
              List.set_set]
            rfl
          · rw [hK.view_setSignature, hsame]
            exact Except.ok.inj hok

end objects

/-- Signing an entry is checking what is asked for, then signing it under its scheme. -/
theorem answer_signAuthEntryWithSigners_eq (entry : SorobanAuthorizationEntry)
    (signers : List AuthDigestSigner) (options : SignAuthEntryWithSignersOptions) :
    Program.answer reply (SmartAccountKit.signAuthEntryWithSigners entry signers options) = (do
      throwIf (signers = []) (JsError.validation "At least one signer is required")
      let scheme ← checkAuthDigestScheme options.authDigestScheme
      signedEntry reply entry scheme signers options) := by
  simp only [SmartAccountKit.signAuthEntryWithSigners, Program.bind_eq, Program.answer_bind,
    Program.answer_ofExcept, prepareSignOnly, checkEntry, signedEntry, bind_assoc, pure_bind,
    writeSignOnly]
  rfl

/-! ## Forms -/

/-- A form in which an app can pass an entry: a reference to an object with that value, a canonical
text, or an object of another SDK copy with the same bytes. -/
def Denotes (K : AuthEntryClass) (objects : List K.Value) (v : K.Value) : AuthEntryInput → Prop
  | .kitObject ref => objects[ref]? = some v
  | .text text => ∃ before after : List Char, (∀ c ∈ before, isSpace c = true) ∧
      (∀ c ∈ after, isSpace c = true) ∧
        text.toList = before ++ ((toBase64 (K.toXDR v)).toList ++ after)
  | .foreign value => value = .encodes (K.toXDR v)

/-- Signing gave the outcome `x` in the form of the input: a text for a text, and a new object with
the signed entry for an object. -/
def Gives (K : AuthEntryClass) (objects : List K.Value) (x : Except JsError K.Value)
    (input : AuthEntryInput) (outcome : Except JsError SignedAuthEntry × List K.Value) : Prop :=
  match x with
  | .error e => outcome.1 = .error e
  | .ok signed =>
    match input with
    | .text _ => outcome.1 = .ok (.text (toBase64 (K.toXDR signed)))
    | _ => ∃ ref, objects.length ≤ ref ∧ outcome.1 = .ok (.object ref) ∧
        outcome.2[ref]? = some signed

section forms

variable {objects : List K.Value} {v : K.Value} {input : AuthEntryInput}

/-- Every form is decoded, or copied, into the same new object. -/
theorem eval_toAuthEntry (hK : K.Lawful) (hv : K.Encodable v) (h : Denotes K objects v input) :
    ∃ decoded objects', eval reply (K.toAuthEntry input "entry") objects =
        (.ok decoded, objects') ∧
      eval reply (K.ownEntry input decoded) objects' = (.ok objects.length, objects ++ [v]) := by
  cases input with
  | kitObject ref =>
    refine ⟨ref, objects, rfl, ?_⟩
    have hread : eval reply (K.readEntry ref) objects = (.ok v, objects) := eval_readEntry h
    rw [ownEntry, if_pos rfl, copyEntry, Program.bind_eq, eval_bind_ok hread, hK.fromXDR_toXDR v hv]
    rfl
  | text text =>
    refine ⟨objects.length, objects ++ [v], ?_, ?_⟩
    · have hdecode : K.decodeText text "entry" = .ok v := (decodeText_iff hK).mpr ⟨hv, h⟩
      rw [toAuthEntry, hdecode]
      rfl
    · rw [ownEntry, if_neg (fun hsame => by cases hsame)]
      rfl
  | foreign value =>
    have hvalue : value = .encodes (K.toXDR v) := h
    refine ⟨objects.length, objects ++ [v], ?_, ?_⟩
    · have hdecode : K.decodeForeign value "entry" = .ok v := by
        rw [hvalue]
        unfold decodeForeign
        dsimp only
        rw [hK.fromXDR_toXDR v hv]
      rw [toAuthEntry, hdecode]
      rfl
    · rw [ownEntry, if_neg (fun hsame => by cases hsame)]
      rfl

/-- Whatever the form, signing comes to what it comes to for the fields of the entry. -/
theorem eval_signAuthEntryWithSigners (hK : K.Lawful) (hv : K.Encodable v)
    (signers : List AuthDigestSigner) (options : SignAuthEntryWithSignersOptions)
    (objects : List K.Value) :
    ∃ x : Except JsError K.Value,
      x.map K.view = Program.answer reply
        (SmartAccountKit.signAuthEntryWithSigners (K.view v) signers options) ∧
      ∀ input, Denotes K objects v input → Gives K objects x input
        (eval reply (K.signAuthEntryWithSigners input signers options) objects) := by
  rw [answer_signAuthEntryWithSigners_eq]
  cases hsome : throwIf (signers = []) (JsError.validation "At least one signer is required") with
  | error e =>
    refine ⟨.error e, rfl, fun input _ => ?_⟩
    show (eval reply (K.signAuthEntryWithSigners input signers options) objects).1 = _
    rw [signAuthEntryWithSigners, hsome, Program.bind_eq, eval_bind_error eval_ofExcept]
  | ok _ =>
    cases hscheme : checkAuthDigestScheme options.authDigestScheme with
    | error e =>
      refine ⟨.error e, rfl, fun input _ => ?_⟩
      show (eval reply (K.signAuthEntryWithSigners input signers options) objects).1 = _
      rw [signAuthEntryWithSigners, hsome, Program.bind_eq, eval_bind_ok eval_ofExcept,
        hscheme, Program.bind_eq, eval_bind_error eval_ofExcept]
    | ok scheme =>
      have hnew : (objects ++ [v])[objects.length]? = some v := by simp
      obtain ⟨w, hsign, hview⟩ :=
        @eval_signEntry K reply _ _ _ hK hnew scheme signers options
      simp only [except_ok_bind]
      refine ⟨(signedEntry reply (K.view v) scheme signers options).map fun _ => w, ?_,
        fun input hdenotes => ?_⟩
      · cases hsigned : signedEntry reply (K.view v) scheme signers options with
        | error e => rfl
        | ok signed => exact congrArg Except.ok (hview signed hsigned)
      · obtain ⟨decoded, objects', hdecode, hcopy⟩ :=
          @eval_toAuthEntry K reply objects v input hK hv hdenotes
        rw [signAuthEntryWithSigners, hsome, Program.bind_eq, eval_bind_ok eval_ofExcept,
          hscheme, Program.bind_eq, eval_bind_ok eval_ofExcept, Program.bind_eq,
          eval_bind_ok hdecode, Program.bind_eq, eval_bind_ok hcopy, Program.bind_eq]
        cases hsigned : signedEntry reply (K.view v) scheme signers options with
        | error e =>
          rw [hsigned] at hsign
          show (eval _ _ _).1 = _
          rw [eval_bind_error hsign]
        | ok signed =>
          rw [hsigned] at hsign
          rw [eval_bind_ok hsign]
          have hread := getElem?_set_of hnew w
          cases input with
          | text text =>
            show (eval _ (K.signedForm _ _) _).1 = _
            rw [signedForm, Program.bind_eq, eval_bind_ok (eval_readEntry hread)]
            rfl
          | kitObject ref => exact ⟨objects.length, le_refl _, rfl, hread⟩
          | foreign value => exact ⟨objects.length, le_refl _, rfl, hread⟩

end forms

/-! ## The objects of the app -/

section writes

variable {W : ℕ → Prop} {ref : ℕ}

theorem writesOnly_updateEntry (h : W ref) (f : K.Value → K.Value) :
    Program.WritesOnly W (K.updateEntry ref f) :=
  Program.writesOnly_bind (Program.writesOnly_getObject _ ref) fun _ =>
    Program.writesOnly_setObject h _

theorem writesOnly_buildSignaturePreimage (h : W ref) (networkPassphrase : String)
    (expiration : JsNumber) :
    Program.WritesOnly W (K.buildSignaturePreimage networkPassphrase ref expiration) := by
  refine Program.writesOnly_bind (Program.writesOnly_getObject _ ref) fun v => ?_
  refine Program.writesOnly_ofExcept_bind fun _ _ => ?_
  refine Program.writesOnly_ofExcept_bind fun ledger _ => ?_
  refine Program.writesOnly_bind (writesOnly_updateEntry h _) fun _ => ?_
  exact Program.writesOnly_bind (Program.writesOnly_getObject _ ref) fun _ =>
    Program.writesOnly_done

theorem writesOnly_computeEntryAuthDigest (h : W ref) (networkPassphrase : String)
    (expiration : JsNumber) (contextRuleIds : List JsNumber) (scheme : AuthDigestScheme) :
    Program.WritesOnly W
      (K.computeEntryAuthDigest networkPassphrase ref expiration contextRuleIds scheme) := by
  refine Program.writesOnly_bind (writesOnly_buildSignaturePreimage h _ _) fun preimage => ?_
  cases scheme with
  | legacyConcat => exact Program.writesOnly_ofExcept_bind fun _ _ => Program.writesOnly_done
  | preimageV1 =>
    refine Program.writesOnly_bind (Program.writesOnly_getObject _ ref) fun v => ?_
    refine Program.writesOnly_ofExcept_bind fun _ _ => ?_
    exact Program.writesOnly_ofExcept_bind fun _ _ => Program.writesOnly_done

/-- Signing an object writes to that object only. -/
theorem writesOnly_signEntry (scheme : AuthDigestScheme) (signers : List AuthDigestSigner)
    (options : SignAuthEntryWithSignersOptions) :
    Program.WritesOnly (fun r => r = ref) (K.signEntry ref scheme signers options) := by
  refine Program.writesOnly_bind (Program.writesOnly_getObject _ ref) fun v => ?_
  refine Program.writesOnly_ofExcept_bind fun checked _ => ?_
  refine Program.writesOnly_bind
    (writesOnly_computeEntryAuthDigest (W := fun r => r = ref) rfl _ _ _ _) fun digest => ?_
  refine Program.writesOnly_bind (Program.writesOnly_withObjects _) fun payload => ?_
  exact Program.writesOnly_ofExcept_bind fun signature _ =>
    writesOnly_updateEntry (W := fun r => r = ref) rfl _

theorem writesOnly_signedForm (input : AuthEntryInput) (signed : ℕ) :
    Program.WritesOnly (fun r => r = signed) (K.signedForm input signed) := by
  cases input with
  | text text =>
    exact Program.writesOnly_bind (Program.writesOnly_getObject _ signed) fun _ =>
      Program.writesOnly_done
  | kitObject ref => exact Program.writesOnly_done
  | foreign value => exact Program.writesOnly_done

end writes

/-- Signing leaves every object of the app as it is, whatever the signers reply. -/
theorem leavesObject_signAuthEntryWithSigners (input : AuthEntryInput)
    (signers : List AuthDigestSigner) (options : SignAuthEntryWithSignersOptions) (ref : ℕ)
    (v : K.Value) :
    LeavesObject ref v (K.signAuthEntryWithSigners input signers options) := by
  have hkeep : ∀ {α : Type} (x : Except JsError α),
      LeavesObject ref v (Program.ofExcept x : K.ObjectProgram α) := fun _ =>
    .of_writesOnly (W := fun _ => False) Program.writesOnly_done not_false
  -- what is signed is an object that was created in this run
  have hrest : ∀ (value : K.Value) (scheme : AuthDigestScheme), LeavesObject ref v
      (Program.bind (Program.newObject value) fun signed =>
        Program.bind (K.signEntry signed scheme signers options) fun _ =>
          K.signedForm input signed) := by
    intro value scheme
    refine leavesObject_newObject_bind value fun signed hne => ?_
    refine .of_writesOnly (W := fun r => r = signed) ?_ (Ne.symm hne)
    exact Program.writesOnly_bind (writesOnly_signEntry scheme signers options) fun _ =>
      writesOnly_signedForm input signed
  refine leavesObject_bind (hkeep _) fun _ => ?_
  refine leavesObject_bind (hkeep _) fun scheme => ?_
  cases input with
  | kitObject decoded =>
    show LeavesObject ref v (Program.bind (K.ownEntry (.kitObject decoded) decoded) _)
    rw [ownEntry, if_pos rfl, copyEntry, Program.bind_eq, Program.bind_assoc]
    refine leavesObject_bind (.of_writesOnly (W := fun _ => False)
      (Program.writesOnly_getObject _ decoded) not_false) fun value => ?_
    rw [Program.bind_eq, Program.bind_assoc]
    exact leavesObject_bind (hkeep _) fun copied => hrest copied scheme
  | text text =>
    show LeavesObject ref v (Program.bind (Program.bind (Program.ofExcept _) _) _)
    rw [Program.bind_assoc]
    refine leavesObject_bind (hkeep _) fun value => ?_
    exact hrest value scheme
  | foreign foreign =>
    show LeavesObject ref v (Program.bind (Program.bind (Program.ofExcept _) _) _)
    rw [Program.bind_assoc]
    refine leavesObject_bind (hkeep _) fun value => ?_
    exact hrest value scheme

/-! ## All forms -/

/-- Where encoding and decoding are inverse, a text is accepted exactly when it is the canonical
base64 text of an entry with white space around it, and is decoded to that entry. And signing an
entry, with signers that answer the same way every time, comes to one outcome in every form: the
same error, or the same signed entry, as a text for a text. No object that was there has changed
after any run, whatever its outcome and whatever the signers reply. -/
theorem form_irrelevant (K : AuthEntryClass) (hK : K.Lawful) (reply : (r : Request) → Reply r) :
    (∀ (text fieldName : String) (v : K.Value) (objects : List K.Value),
      (∃ ref objects', eval reply (K.toAuthEntry (.text text) fieldName) objects =
          (.ok ref, objects') ∧ objects'[ref]? = some v) ↔
        K.Encodable v ∧ ∃ before after : List Char, (∀ c ∈ before, isSpace c = true) ∧
          (∀ c ∈ after, isSpace c = true) ∧
            text.toList = before ++ ((toBase64 (K.toXDR v)).toList ++ after)) ∧
    ∀ (v : K.Value) (signers : List AuthDigestSigner) (options : SignAuthEntryWithSignersOptions)
      (objects : List K.Value), K.Encodable v →
      (∃ x : Except JsError K.Value,
        x.map K.view = Program.answer reply
          (SmartAccountKit.signAuthEntryWithSigners (K.view v) signers options) ∧
        ∀ input, Denotes K objects v input → Gives K objects x input
          (eval reply (K.signAuthEntryWithSigners input signers options) objects)) ∧
      ∀ (input : AuthEntryInput) (t : History (Environment.sum (Objects K.Value)))
        (outcome : Except JsError SignedAuthEntry) (objects' : List K.Value),
        Program.Run (K.signAuthEntryWithSigners input signers options) t outcome →
        (objectMemory Environment K.Value).Threads objects t objects' →
        ∀ (ref : ℕ) (w : K.Value), objects[ref]? = some w → objects'[ref]? = some w := by
  constructor
  · intro text fieldName v objects
    rw [← @decodeText_iff K hK text fieldName v]
    constructor
    · rintro ⟨ref, objects', heval, hread⟩
      rw [toAuthEntry] at heval
      cases hdecode : K.decodeText text fieldName with
      | error e =>
        rw [hdecode] at heval
        cases congrArg Prod.fst heval
      | ok decoded =>
        rw [hdecode] at heval
        obtain ⟨href, hobjects⟩ := Prod.mk.inj heval
        have href' : objects.length = ref := Except.ok.inj href
        have hobjects' : objects ++ [decoded] = objects' := hobjects
        rw [← href', ← hobjects', List.getElem?_concat_length] at hread
        rw [Option.some.inj hread]
    · intro hdecode
      refine ⟨objects.length, objects ++ [v], ?_, List.getElem?_concat_length⟩
      rw [toAuthEntry, hdecode]
      rfl
  · intro v signers options objects hv
    refine ⟨eval_signAuthEntryWithSigners hK hv signers options objects, ?_⟩
    intro input t outcome objects' hrun hthreads ref w hold
    exact (leavesObject_signAuthEntryWithSigners input signers options ref w).threads hrun hthreads
      hold

/-- The bytes of an entry with V1 address credentials. -/
def sampleXDR (entry : SorobanAuthorizationEntry) : Bytes :=
  match entry.credentials with
  | .address c => xdrU32 1 ++ (c.address.toXDR ++ (xdrU64 c.nonce.toBitVec.toNat ++
      (xdrU32 c.signatureExpirationLedger.toNat ++ (c.signature.toXDR ++
        entry.rootInvocation.toXDR))))
  | _ => []

/-- A decoder of the sample entry. -/
def sampleFromXDR (bytes : Bytes) : Except String SorobanAuthorizationEntry :=
  if bytes = sampleXDR sampleEntry then .ok sampleEntry else .error "XDR Read Error"

theorem sampleFromXDR_eq_ok {bytes : Bytes} {entry : SorobanAuthorizationEntry} :
    sampleFromXDR bytes = .ok entry ↔ entry = sampleEntry ∧ bytes = sampleXDR sampleEntry := by
  unfold sampleFromXDR
  split_ifs with hbytes
  · rw [Except.ok.injEq, eq_comm, and_iff_left hbytes]
  · exact iff_of_false (fun h => by cases h) fun h => hbytes h.2

/-- An SDK that knows the encoding of the sample entry. -/
def sampleClass : AuthEntryClass where
  Value := SorobanAuthorizationEntry
  Encodable v := v = sampleEntry
  view v := v
  setExpiration v ledger := v.setExpiration ledger
  setSignature v signature := v.setSignature signature
  toXDR := sampleXDR
  fromXDR := sampleFromXDR

theorem sampleClass_lawful : sampleClass.Lawful where
  view_setExpiration _ _ := rfl
  view_setSignature _ _ := rfl
  fromXDR_toXDR v hv := by
    have hsample : v = sampleEntry := hv
    exact sampleFromXDR_eq_ok.mpr ⟨hsample, congrArg sampleXDR hsample⟩
  toXDR_fromXDR bytes v h := by
    obtain ⟨hsample, hbytes⟩ := sampleFromXDR_eq_ok.mp h
    exact ⟨hsample, (congrArg sampleXDR hsample).trans hbytes.symm⟩
  toXDR_ne_nil v hv := by
    have hsample : v = sampleEntry := hv
    have hsome : sampleXDR sampleEntry ≠ [] := by decide
    exact fun hnil => hsome ((congrArg sampleXDR hsample).symm.trans hnil)

/-- A canonical text on a line of its own. -/
theorem denotes_line (K : AuthEntryClass) (objects : List K.Value) (v : K.Value) :
    Denotes K objects v (.text (toBase64 (K.toXDR v) ++ "\n")) :=
  ⟨[], ['\n'], by simp, List.forall_mem_singleton.mpr rfl, String.toList_append⟩

/-- The sample entry, as an object and as a text on a line of its own, is signed to one entry. -/
theorem form_irrelevant_sample :
    ∃ signed : SorobanAuthorizationEntry, ∃ ref : ℕ, ∃ objects : List SorobanAuthorizationEntry,
      eval sampleReplies.reply (sampleClass.signAuthEntryWithSigners (.kitObject 0)
        [⟨0, sampleSigner 1⟩] sampleOptions) [sampleEntry] = (.ok (.object ref), objects) ∧
      objects[ref]? = some signed ∧
      (eval sampleReplies.reply (sampleClass.signAuthEntryWithSigners
        (.text (toBase64 (sampleXDR sampleEntry) ++ "\n")) [⟨0, sampleSigner 1⟩] sampleOptions)
          [sampleEntry]).1 = .ok (.text (toBase64 (sampleXDR signed))) := by
  obtain ⟨-, hsign⟩ := form_irrelevant sampleClass sampleClass_lawful sampleReplies.reply
  obtain ⟨⟨x, hx, hforms⟩, -⟩ :=
    hsign sampleEntry [⟨0, sampleSigner 1⟩] sampleOptions [sampleEntry] rfl
  have hok : (Program.answer sampleReplies.reply (SmartAccountKit.signAuthEntryWithSigners
      sampleEntry [⟨0, sampleSigner 1⟩] sampleOptions)).isOk = true := by
    set_option maxRecDepth 20000 in decide
  have hline := denotes_line sampleClass [sampleEntry] sampleEntry
  have hobject := hforms (.kitObject 0) rfl
  have htextual := fun text => hforms (.text text)
  cases x with
  | error e =>
    have hfail : Program.answer sampleReplies.reply (SmartAccountKit.signAuthEntryWithSigners
      sampleEntry [⟨0, sampleSigner 1⟩] sampleOptions) = .error e := hx.symm
    rw [hfail] at hok
    cases hok
  | ok signed =>
    obtain ⟨ref, -, hresult, hread⟩ := hobject
    have hpair : ∀ o : Except JsError SignedAuthEntry × List sampleClass.Value,
        o.1 = .ok (.object ref) → o = (.ok (.object ref), o.2) := fun o ho => Prod.ext ho rfl
    exact ⟨signed, ref, _, hpair _ hresult, hread, htextual _ hline⟩

end AuthEntryClass

end SmartAccountKit
