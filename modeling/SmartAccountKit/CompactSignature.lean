import SmartAccountKit.Errors
import SmartAccountKit.Lib.Bytes
import SmartAccountKit.Lib.Lists

/-!
# Compact signatures

The 64-byte form, with a low `s`, of the DER signature that an authenticator
returns.
-/

namespace SmartAccountKit
open Lib

/-- The order of the secp256r1 curve. -/
def SECP256R1_ORDER : ℕ := 0xffffffff00000000ffffffffffffffffbce6faada7179e84f3b9cac2fc632551

/-- The error for a malformed signature. -/
def malformedSignature (reason : String) : JsError :=
  JsError.validation ("Malformed DER ECDSA signature: " ++ reason)

/-- Read the integer that stands at an offset, as its value and the offset after it. `name` names
it in errors, and `overrun` checks the end of its bytes. -/
def derInteger (name : String) (der : Bytes) (offset : ℕ) (overrun : ℕ → Except JsError Unit) :
    Except JsError (ℕ × ℕ) := do
  throwIf (der.getD offset 0 ≠ 0x02) (malformedSignature ("missing INTEGER tag for " ++ name))
  let length := (der.getD (offset + 1) 0).toNat
  throwIf (length < 1 ∨ 33 < length) (malformedSignature (name ++ " length is out of range"))
  let stop := offset + 2 + length
  overrun stop
  return (ofBeBytes ((der.drop (offset + 2)).take length), stop)

/-- Refuse an integer that is not a value modulo the order of the curve. -/
def assertCurveRange (name : String) (value : ℕ) : Except JsError Unit :=
  throwIf (value < 1 ∨ SECP256R1_ORDER ≤ value)
    (malformedSignature (name ++ " is out of curve order range"))

/-- The smaller of `s` and its negative. -/
def lowS (s : ℕ) : ℕ :=
  if SECP256R1_ORDER / 2 < s then SECP256R1_ORDER - s else s

def compactSignature (derSignature : Bytes) : Except JsError Bytes := do
  throwIf (derSignature.length < 8) (malformedSignature "too short")
  throwIf (derSignature.getD 0 0 ≠ 0x30) (malformedSignature "missing SEQUENCE tag")
  let totalLength := (derSignature.getD 1 0).toNat
  throwIf (0x80 ≤ totalLength) (malformedSignature "long-form length is unsupported")
  throwIf (totalLength ≠ derSignature.length - 2)
    (malformedSignature "SEQUENCE length does not span the buffer")
  let (r, sTagOffset) ← derInteger "r" derSignature 2 fun stop =>
    -- room for the tag and the length of s
    throwIf (derSignature.length < stop + 2) (malformedSignature "r overruns the buffer")
  let (s, _) ← derInteger "s" derSignature sTagOffset fun stop =>
    throwIf (stop ≠ derSignature.length) (malformedSignature "s does not end at the buffer end")
  assertCurveRange "r" r
  assertCurveRange "s" s
  return beBytes 32 r ++ beBytes 32 (lowS s)

end SmartAccountKit
