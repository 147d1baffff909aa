import TokenAuthority.Failure
import TokenAuthority.Password.PasswordHash

/-!
What is stored for a new password: the text of its hash under a salt that was drawn for it.
-/

namespace TokenAuthority.Password

structure Salt where
  bytes : List UInt8
  length_eq : bytes.length = 16

/-- The text to store for a password. The hash function refuses no password but one of 2^32 bytes
or more. -/
def hashPassword (salt : Salt) (password : String) : Except Failure String :=
  match PasswordHash.ofPassword? salt.bytes password with
  | some hash => .ok hash.render
  | none => .error (.internal "failed to hash password: invalid password")

end TokenAuthority.Password
