import SmartAccountKit.ContractErrors
import SmartAccountKit.Lib.Digits
import SmartAccountKit.Lib.DoubleText
import SmartAccountKit.AuthEntry

/-!
# Token amounts

The amount of a transfer is a JavaScript number, and is scaled to the raw units
of a token by the digits it prints with.
-/

namespace SmartAccountKit
open Lib

/-! ## Printed numbers -/

/-- The text of a positive number or zero: digits with a point, and an exponent where the number
prints in exponential form. -/
structure DecimalText where
  whole : List (Fin 10)
  fraction : List (Fin 10) := []
  exponent : Option ℤ := none
deriving DecidableEq

/-- The number that digits denote. -/
def digitsValue (digits : List (Fin 10)) : ℕ := ofBeDigits 10 (digits.map Fin.val)

/-- The number that a text denotes. -/
def DecimalText.value (text : DecimalText) : ℚ :=
  digitsValue (text.whole ++ text.fraction) *
    (10 : ℚ) ^ (text.exponent.getD 0 - text.fraction.length)

/-- A JavaScript number, with the text it prints as. -/
inductive PrintedNumber where
  | finite (negative : Bool) (text : DecimalText)
  | infinite (negative : Bool)
  | nan
deriving DecidableEq

def PrintedNumber.number : PrintedNumber → JsNumber
  | finite negative text => .finite (if negative then -text.value else text.value)
  | infinite negative => .infinite negative
  | nan => .nan

/-- The text of a positive finite number. -/
def PrintedNumber.positiveText : PrintedNumber → Option DecimalText
  | finite false text => if 0 < text.value then some text else none
  | _ => none

/-! ## Validation -/

def validateAddress (address fieldName : String) : Except JsError Unit :=
  if address = "" then .error (JsError.validation (fieldName ++ " is required")
    .INVALID_ADDRESS [("field", .text fieldName)])
  else
    match addressFromString address with
    | some (.account _) | some (.contract _) => .ok ()
    | _ => .error (JsError.validation
        ("Invalid " ++ fieldName ++
          ": must be a valid Stellar account (G...) or contract (C...) address")
        .INVALID_ADDRESS [("field", .text fieldName),
          ("value", .text (String.ofList (address.toList.take 10) ++ "..."))])

def validateAmount (amount : PrintedNumber) (fieldName : String) : Except JsError Unit :=
  match amount.number with
  | .finite value =>
    throwIf (value ≤ 0) (JsError.validation (fieldName ++ " must be positive")
      .INVALID_AMOUNT [("field", .text fieldName), ("value", .number amount.number)])
  | _ => .error (JsError.validation (fieldName ++ " must be a number")
      .INVALID_AMOUNT [("field", .text fieldName)])

/-! ## Scaling -/

/-- The decimals of a token are an integer from 0 to 18. -/
def checkDecimals (decimals : JsNumber) : Except JsError ℕ :=
  match decimals with
  | .finite value =>
    if value.den = 1 ∧ 0 ≤ value.num ∧ value.num ≤ 18 then .ok value.num.toNat
    else .error (JsError.simulation ("Invalid token decimals: " ++ numberText decimals))
  | _ => .error (JsError.simulation ("Invalid token decimals: " ++ numberText decimals))

/-- The digits of a text before and after the point, in plain notation. -/
def expandDecimal (text : DecimalText) : List (Fin 10) × List (Fin 10) :=
  match text.exponent with
  | none => (text.whole, text.fraction)
  | some exponent =>
    let digits := text.whole ++ text.fraction
    let point := text.whole.length + exponent
    if point ≤ 0 then ([0], List.replicate (-point).toNat 0 ++ digits)
    else if digits.length ≤ point then
      (digits ++ List.replicate (point - digits.length).toNat 0, [])
    else (digits.take point.toNat, digits.drop point.toNat)

/-- `fraction.padEnd(decimals, "0")`. -/
def padEnd (fraction : List (Fin 10)) (decimals : ℕ) : List (Fin 10) :=
  fraction ++ List.replicate (decimals - fraction.length) 0

/-- The error for an amount, with the amount. -/
def amountError (message : String) (amount : PrintedNumber) : JsError :=
  JsError.validation message .INVALID_AMOUNT [("value", .number amount.number)]

/-- Scale an amount to raw units. Leading zeros are dropped from the digits before they are read,
which does not change the integer that they denote. -/
def tokenAmountToRawUnits (amount : PrintedNumber) (decimals : JsNumber) : Except JsError ℕ :=
  match amount.positiveText with
  | none => .error (amountError "amount must be a positive number" amount)
  | some text => do
    let decimals ← checkDecimals decimals
    throwIf (1 ≤ text.value ∧ !(JsNumber.finite ⌊text.value⌋).isSafeInteger)
      (amountError "amount exceeds safe integer precision; use a smaller value" amount)
    let (whole, fraction) := expandDecimal text
    throwIf (decimals < fraction.length) (JsError.validation
      ("amount has more precision than the token supports (" ++ toString decimals ++ " decimals)")
      .INVALID_AMOUNT [("decimals", .number (.ofNat decimals)),
        ("fractionDigits", .number (.ofNat fraction.length))])
    let raw := digitsValue (whole ++ padEnd fraction decimals)
    throwIf (raw = 0) (amountError "amount must be positive" amount)
    return raw

-- 1.5 units of a token with 7 decimals, and one raw unit
example : tokenAmountToRawUnits (.finite false { whole := [1], fraction := [5] }) (.ofNat 7) =
    .ok 15000000 := by decide +kernel
example : tokenAmountToRawUnits (.finite false { whole := [1], exponent := some (-7) })
    (.ofNat 7) = .ok 1 := by decide +kernel

/-! ## The call -/

def buildTokenTransferHostFunction (tokenContract fromAddress toAddress : String)
    (amountInStroops : ℤ) : Except JsError HostFunction := do
  let contractAddress ← toScAddress tokenContract
  let source ← toScAddress fromAddress
  let destination ← toScAddress toAddress
  return .invokeContract
    { contractAddress
      functionName := utf8Encode "transfer"
      args := [.address source, .address destination, .i128 (BitVec.ofInt 128 amountInStroops)] }

end SmartAccountKit
