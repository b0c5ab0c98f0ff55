import DocSearch.Http.Retry

/-!
# Settings of the HTTP side

Time limits, the retry policy, and what is said in the request headers.
-/
namespace DocSearch.Http

/-- The name under which requests are sent unless another is given. -/
def defaultUserAgent : String := "quarry-http-client/0.1.1"

structure Settings where
  timeout : Duration := .ofSeconds 30
  connectTimeout : Duration := .ofSeconds 10
  retry : RetryPolicy := {}
  userAgent : String := defaultUserAgent
  gzip : Bool := true
  deriving DecidableEq, Repr, Inhabited

/-- Whether a character may stand in a header: no control but the tab. -/
def isHeaderChar (c : Char) : Bool := c == '\t' || (0x20 ≤ c.toNat && c.toNat != 0x7F)

/-- Whether a client can be made with these settings. -/
def Settings.areUsable (s : Settings) : Bool := s.userAgent.toList.all isHeaderChar

end DocSearch.Http
