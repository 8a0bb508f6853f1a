import FeatureFlags.Error
import FeatureFlags.Fetch.TagCache
import FeatureFlags.Url

/-!
# Fetching features

A request for features carries the entity tag of the definitions that are already in effect, so
that the server can answer that they have not changed.  A tag is remembered by whoever applies the
definitions it came with; fetching itself only reads the cache.
-/

namespace FeatureFlags

/-! ## Requests and responses -/

/-- A request for the resource at a URL. -/
structure Request where
  url : String
  headers : Dictionary String
deriving DecidableEq, Repr

/-- The response to a request. The names of its headers are in lower case. -/
structure Response where
  status : Nat
  headers : Dictionary String
  body : Text.Utf8.Bytes
deriving DecidableEq, Repr

/-- Looks a header up, whatever the case of the ASCII letters in the name asked for. -/
def Response.header (response : Response) (name : String) : Option String :=
  Dictionary.get? response.headers (String.ofList (name.toList.map Char.toLower))

/-! ## Outcomes -/

/-- What a successful request for features brings. -/
inductive FetchOutcome
  /-- A new payload, and its tag. -/
  | fetched (body : Text.Utf8.Bytes) (tag : Option String)
  /-- The definitions in effect are current. -/
  | notModified
deriving DecidableEq, Repr

namespace FetchOutcome

/-- The path in front of the key of a features endpoint. -/
def featuresPath : List Char := "/api/features/".toList

/-- Whether a text holds the path of a features endpoint with a key behind it. Only the tags of
such URLs are remembered. -/
def isCacheable : List Char → Bool
  | [] => false
  | c :: rest =>
    (featuresPath.isPrefixOf (c :: rest) &&
        ((c :: rest).drop featuresPath.length).head?.any (· ≠ '/'))
      || isCacheable rest

/-- The outcome that a response stands for. -/
def ofResponse (url : Url) (response : Response) : Except Error FetchOutcome :=
  if 200 ≤ response.status && response.status ≤ 299 then
    .ok (fetched response.body (if isCacheable url.write then response.header "etag" else none))
  else if response.status = 304 then .ok notModified
  else if response.status = 401 || response.status = 403 then .error .unauthorized
  else .error (.unexpectedStatus response.status)

end FetchOutcome

namespace TagCache

/-- The headers of every request for features. -/
def commonHeaders : Dictionary String := [("Cache-Control", "max-age=3600")]

/-- The request for the features at a URL. It makes use of the tag of the URL. -/
def requestFor (cache : TagCache) (url : Url) : Request × TagCache :=
  if FetchOutcome.isCacheable url.write then
    match cache.get url.text with
    | (some tag, next) =>
      (⟨url.text, Dictionary.insert "If-None-Match" tag commonHeaders⟩, next)
    | (none, next) => (⟨url.text, commonHeaders⟩, next)
  else (⟨url.text, commonHeaders⟩, cache)

/-- Remembers the tag that came with the definitions from a URL. -/
def remember (cache : TagCache) (url : Url) (tag : Option String) : TagCache :=
  if FetchOutcome.isCacheable url.write then cache.put url.text tag else cache

end TagCache

end FeatureFlags
