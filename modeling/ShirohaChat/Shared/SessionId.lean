import ShirohaChat.Shared.QtText

/-!
# The id of a private session

SHA-256 is a library function; the model takes it as a parameter from the
bytes of a text to the hexadecimal digest.
-/

set_option autoImplicit false

namespace ShirohaChat

def computePrivateSessionId (sha256 : List Nat → String) (userA userB : String) : String :=
  let lo := if qLess userA userB then userA else userB
  let hi := if qLess userA userB then userB else userA
  let data := CodeUnits.utf8 (lo ++ ":" ++ hi).toList
  String.ofList ((sha256 data).toList.take 32)

end ShirohaChat
