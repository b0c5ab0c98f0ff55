import DocSearch.Json.Text
import DocSearch.Url.Parse

/-!
# Requests

A logical request. It is sent as it is, however often it has to be sent.
-/
namespace DocSearch.Http

structure Request where
  method : String
  url : Url
  body : Option Json := none
  deriving DecidableEq, Repr

namespace Request

/-- A request to the URL a text stands for. -/
def make (method : String) (url : String) (body : Option Json) : Except UrlError Request := do
  return { method, url := ← Url.parse url.toList, body }

/-- The request line. -/
def text (r : Request) : String := r.method ++ " " ++ r.url.href

end Request
end DocSearch.Http
