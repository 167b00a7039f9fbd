import ComputeExchange.Chain.Address

/-!
# Signing keys

A signing key is a number of 32 bytes that is neither zero nor as great as the order of the curve
secp256k1.
-/

namespace ComputeExchange.SigningKey

/-- The order of the curve. -/
def curveOrder : Nat := 0xfffffffffffffffffffffffffffffffebaaedce6af48a03bbfd25e8cd0364141

/-- Whether a hexadecimal text is a signing key. -/
def isKey (s : String) : Bool :=
  match Bytes.ofHex? 32 s with
  | some key => Word.toNat key != 0 && Word.toNat key < curveOrder
  | none => false

/-- The failure to read a signing key. -/
def badKey : Cause := Cause.ofText "Failed to parse the admin private key"

end ComputeExchange.SigningKey
