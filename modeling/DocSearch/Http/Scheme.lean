import DocSearch.Http.Error

/-!
# Schemes the wire does not take

A request to a URL that is neither of the two web schemes is refused without a connection. The
text shows the URL without credentials, which are moved into a header before; they stay in the URL
if the name is no UTF-8.
-/
namespace DocSearch.Http

/-- Whether the credentials of a URL can be put into a header. -/
def movesCredentials (a : Authority) : Bool :=
  let readable := fun (part : List Char) => (Utf8.decode (Percent.decode part)).isOk
  readable a.username && (!a.username.isEmpty || (!a.password.isEmpty && readable a.password))

/-- The URL as the wire shows it. -/
def shownUrl (u : Url) : Url :=
  if u.authority.any movesCredentials then u.withoutCredentials else u

/-- The failure of an attempt to a URL with another scheme. -/
def schemeFailure (u : Url) : TransportFailure :=
  ⟨.other, "builder error for url (" ++ (shownUrl u).href ++ "): URL scheme is not allowed"⟩

/-- The error of a call to a URL with another scheme: one attempt, never repeated. -/
def schemeError (r : Request) : Error := .transport (schemeFailure r.url) 1 r

end DocSearch.Http
