/-!
# Base64 with padding
-/
namespace BuildLedger.Bytes

def base64Alphabet : List Char :=
  "ABCDEFGHIJKLMNOPQRSTUVWXYZabcdefghijklmnopqrstuvwxyz0123456789+/".toList

def sextet (value : Nat) : Char :=
  base64Alphabet.getD (value % 64) '='

/-- Three bytes make four characters; a shorter end is filled up with `=`. -/
def toBase64List : List UInt8 → List Char
  | [] => []
  | [first] =>
      let bits := first.toNat * 65536
      [sextet (bits / 262144), sextet (bits / 4096), '=', '=']
  | [first, second] =>
      let bits := first.toNat * 65536 + second.toNat * 256
      [sextet (bits / 262144), sextet (bits / 4096), sextet (bits / 64), '=']
  | first :: second :: third :: rest =>
      let bits := first.toNat * 65536 + second.toNat * 256 + third.toNat
      sextet (bits / 262144) :: sextet (bits / 4096) :: sextet (bits / 64) :: sextet bits ::
        toBase64List rest

def toBase64 (bytes : List UInt8) : String := String.ofList (toBase64List bytes)

end BuildLedger.Bytes
