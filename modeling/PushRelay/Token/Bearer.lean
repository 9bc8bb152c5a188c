import PushRelay.Value.Text

/-!
# Bearer tokens

A token that is good for a short time, and how it authorizes a request. Its
text is never shown.
-/

namespace PushRelay

/-- An access token. -/
structure BearerToken where
  accessToken : Value
  expiry : Value := .null
  deriving Repr

namespace BearerToken

/-- The header that authorizes a request. -/
def header (t : BearerToken) : String := "Bearer " ++ t.accessToken.shown

/-- The literal of the token, without the access token itself. -/
def literal (t : BearerToken) : String := "BearerToken(expiry=" ++ t.expiry.literal ++ ")"

end BearerToken
end PushRelay
