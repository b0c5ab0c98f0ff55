import DocSearch.Backend.Client
import DocSearch.Proofs.Url.Web

/-!
# Where a document is stored and deleted

The escapes of an id keep the delimiters of a URL out of its segment, and the reader of URLs takes
the segment as it is written, so that decoding gives the id back. The dot is no delimiter: the ids
`.` and `..` are written as they are and read as dot segments. They address the place of the empty
id and the place above the type; every other id has an address of its own.
-/
namespace DocSearch

/-! ## Names -/

/-- What a name is made of that is written the same in every part of a URL. -/
def isPlainChar (c : Char) : Bool := c.isAlphanum || c == '-' || c == '_'

def isPlainName (name : List Char) : Bool := !name.isEmpty && name.all isPlainChar

/-- A place on the web under a lettered host, with plain names for the index and the type. -/
structure Locator.IsPlain (l : Locator) : Prop where
  protocol : l.protocol = "http" ∨ l.protocol = "https"
  host : Domain.isLettered l.host.toList = true
  docType : isPlainName l.docType.toList = true
  indexPrefix : ∀ label, l.indexPrefix = some label → isPlainName label.toList = true

theorem isPlainChar_ascii (c : Char) (plain : isPlainChar c = true) : c.toNat < 0x80 := by
  simp only [isPlainChar, Bool.or_eq_true, beq_iff_eq] at plain
  rcases plain with (alphanumeric | rfl) | rfl
  · rcases Bool.or_eq_true_iff.mp alphanumeric with letter | digit
    · exact Domain.isAlpha_ascii c letter
    · exact Numeral.isDigit_ascii digit
  · decide
  · decide

theorem isKept_of_plainName (name : List Char) (plain : isPlainName name = true) (c : Char)
    (found : c ∈ name) : Url.isKept c = true := by
  have here := List.all_eq_true.mp (Bool.and_eq_true_iff.mp plain).2 c found
  exact Utf8.forall_ascii (fun c => isPlainChar c = true → Url.isKept c = true)
    (by decide +kernel) c (isPlainChar_ascii c here) here

/-- Plain names are no dot segments. -/
theorem not_dots_of_plainName (name : List Char) (plain : isPlainName name = true) :
    UrlPath.isHere name = false ∧ UrlPath.isAbove name = false := by
  have here : ∀ dots ∈ UrlPath.dotSpellings, isPlainName dots = false := by decide
  have above : ∀ dots ∈ UrlPath.dotSpellings.flatMap
      fun first => UrlPath.dotSpellings.map (first ++ ·), isPlainName dots = false := by decide
  constructor <;> rw [Bool.eq_false_iff] <;> intro spelled
  · exact absurd plain (by simp [here name (List.contains_iff_mem.mp spelled)])
  · exact absurd plain (by simp [above name (List.contains_iff_mem.mp spelled)])

/-- Plain names are no drives, so that a segment above them is taken back. -/
theorem not_drive_of_plainName (name : List Char) (plain : isPlainName name = true) :
    UrlPath.isDrive name = false := by
  rw [Bool.eq_false_iff]
  intro drive
  unfold UrlPath.isDrive at drive
  split at drive
  · next letter mark =>
    have plainMark : isPlainChar mark = true := by
      simp only [isPlainName, List.all_cons, Bool.and_eq_true] at plain
      exact plain.2.2.1
    have spelled := (Bool.and_eq_true_iff.mp drive).2
    simp only [Bool.or_eq_true, beq_iff_eq] at spelled
    rcases spelled with rfl | rfl
    · exact absurd plainMark (by decide)
    · exact absurd plainMark (by decide)
  · exact Bool.false_ne_true drive

theorem isPlainName_indexName (l : Locator) (plain : l.IsPlain) :
    isPlainName l.indexName.toList = true := by
  cases named : l.indexPrefix with
  | none => simpa [Locator.indexName, named] using plain.docType
  | some label =>
    have front := plain.indexPrefix label named
    have back := plain.docType
    have dash : isPlainChar '-' = true := by decide
    simp only [isPlainName, Bool.and_eq_true] at front back ⊢
    simp [Locator.indexName, named, front.2, back.2, dash]

/-! ## The segment of an id -/

/-- What the escapes of an id leave stays as it is in a path. -/
theorem isKept_of_segment (id : String) (c : Char) (found : c ∈ (Locator.segment id).toList) :
    Url.isKept c = true := by
  rw [Locator.segment, String.toList_ofList] at found
  obtain ⟨ascii, free⟩ | rfl | ⟨n, small, rfl⟩ :=
    Percent.mem_encode Percent.isSegmentDelimiter id.toList c found
  · exact Utf8.forall_ascii (fun c => Percent.isSegmentDelimiter c = false → Url.isKept c = true)
      (by decide +kernel) c ascii free
  · decide
  · have digits : ∀ d < 16, Url.isKept (Percent.hexDigit d) = true := by decide
    exact digits n small

/-- The segment of an id decodes to the id. -/
theorem decode_segment (id : String) :
    Percent.decode (Locator.segment id).toList = Utf8.encode id := by
  rw [Locator.segment, String.toList_ofList]
  exact Percent.decode_encode Percent.isSegmentDelimiter (by decide) id.toList

theorem segment_injective (a b : String)
    (same : (Locator.segment a).toList = (Locator.segment b).toList) : a = b := by
  rw [Locator.segment, Locator.segment, String.toList_ofList, String.toList_ofList] at same
  exact String.toList_inj.mp
    (Percent.encode_injective Percent.isSegmentDelimiter (by decide) a.toList b.toList same)

namespace Locator

/-- What a segment may be made of: visible ASCII characters, none of which ends or splits it. -/
def isSegmentChar (c : Char) : Bool :=
  0x20 < c.toNat && c.toNat < 0x7F &&
    !(['"', '#', '/', '<', '>', '?', '\\', '`', '\x7b', '\x7d'].contains c)

theorem isSegmentChar_of_segment (id : String) (c : Char) (found : c ∈ (segment id).toList) :
    isSegmentChar c = true := by
  rw [segment, String.toList_ofList] at found
  obtain ⟨ascii, free⟩ | rfl | ⟨n, small, rfl⟩ :=
    Percent.mem_encode Percent.isSegmentDelimiter id.toList c found
  · exact Utf8.forall_ascii
      (fun c => Percent.isSegmentDelimiter c = false → isSegmentChar c = true)
      (by decide +kernel) c ascii free
  · decide
  · have digits : ∀ d < 16, isSegmentChar (Percent.hexDigit d) = true := by decide
    exact digits n small

/-- The text of a document's address is that of its type, a slash, and one segment: visible ASCII
without delimiters, in which every percent sign starts an escape and whose bytes are those of the
id. So ids that differ have addresses that differ. -/
theorem documentUri_ends_in_segment_of_id (l : Locator) :
    (∀ id : String, ∃ e : String, l.documentUri id = l.typeUri ++ "/" ++ e ∧
      (∀ c ∈ e.toList, isSegmentChar c = true) ∧
      Percent.EscapesAreWhole e.toList ∧
      Percent.decode e.toList = Utf8.encode id) ∧
    Function.Injective l.documentUri := by
  constructor
  · intro id
    refine ⟨segment id, rfl, isSegmentChar_of_segment id, ?_, decode_segment id⟩
    rw [segment, String.toList_ofList]
    exact Percent.escapesAreWhole_encode Percent.isSegmentDelimiter (by decide) id.toList
  · intro a b same
    exact segment_injective a b (congrArg String.toList (String.append_right_inj _ |>.mp same))

/-- An id that looks escaped, with a slash, a control and a letter of two bytes. -/
example : segment "%2F/\x7fé" = "%252F%2F%7F%C3%A9" := by decide

end Locator

/-- All spellings of a dot decode to it, so that only the dot itself is written as one. -/
theorem isHere_segment_iff (id : String) :
    UrlPath.isHere (Locator.segment id).toList = true ↔ id = "." := by
  constructor
  · intro here
    have spelled : ∀ dots ∈ UrlPath.dotSpellings, Percent.decode dots = Utf8.encode "." := by decide
    have bytes := spelled _ (List.contains_iff_mem.mp here)
    rw [decode_segment] at bytes
    exact Utf8.encode_injective id "." bytes
  · intro same
    subst same
    decide

theorem isAbove_segment_iff (id : String) :
    UrlPath.isAbove (Locator.segment id).toList = true ↔ id = ".." := by
  constructor
  · intro above
    have spelled : ∀ dots ∈ UrlPath.dotSpellings.flatMap
        fun first => UrlPath.dotSpellings.map (first ++ ·),
        Percent.decode dots = Utf8.encode ".." := by decide
    have bytes := spelled _ (List.contains_iff_mem.mp above)
    rw [decode_segment] at bytes
    exact Utf8.encode_injective id ".." bytes
  · intro same
    subst same
    decide

/-! ## The address of a document -/

namespace Locator

/-- The URL of segments at the place: the host in lower case, a default port left out. -/
def address (l : Locator) (parts : List (List Char)) : Url :=
  Url.assembled l.protocol.toList (l.host.toList.map Char.toLower)
    (l.port.filter fun port =>
      some port != (Url.SchemeKind.ofScheme l.protocol.toList).defaultPort?) parts

/-- The segments under which a document is stored and deleted. The id `.` leaves an empty segment
in its place, and `..` takes the type back as well. -/
def documentPath (l : Locator) (id : String) : List (List Char) :=
  if id = "." then [l.indexName.toList, l.docType.toList, []]
  else if id = ".." then [l.indexName.toList, []]
  else [l.indexName.toList, l.docType.toList, (segment id).toList]

/-- The URL of a document. -/
def documentAddress (l : Locator) (id : String) : Url := l.address (l.documentPath id)

/-- A URL addresses a document if it is one of the place, its segments are the index, the type and
one that decodes to the id, and nothing follows them. -/
structure Addresses (l : Locator) (id : String) (u : Url) : Prop where
  place : ∃ parts, u = l.address parts
  path : ∃ part, u.path = .segments [l.indexName.toList, l.docType.toList, part] ∧
    Percent.decode part = Utf8.encode id
  query : u.query = none
  fragment : u.fragment = none

variable (l : Locator) (plain : l.IsPlain)
include plain

theorem resolve_document (id : String) :
    UrlPath.resolve false [] [l.indexName.toList, l.docType.toList, (segment id).toList]
      = l.documentPath id := by
  obtain ⟨indexHere, indexAbove⟩ := not_dots_of_plainName _ (isPlainName_indexName l plain)
  obtain ⟨typeHere, typeAbove⟩ := not_dots_of_plainName _ plain.docType
  have typeDrive := not_drive_of_plainName _ plain.docType
  have typeFirst : UrlPath.resolve false []
      [l.indexName.toList, l.docType.toList, (segment id).toList]
      = (UrlPath.push false true [l.docType.toList, l.indexName.toList]
          (segment id).toList).reverse := by
    simp only [UrlPath.resolve, UrlPath.push, indexHere, indexAbove, typeHere, typeAbove,
      Bool.false_and, Bool.false_eq_true, if_false]
  have above := isAbove_segment_iff id
  have here := isHere_segment_iff id
  rw [typeFirst, documentPath]
  by_cases isHere : id = "."
  · have free : ¬ UrlPath.isAbove (segment id).toList = true := by
      rw [above, isHere]
      decide
    rw [if_pos isHere, UrlPath.push, if_neg free, if_pos (here.mpr isHere)]
    rfl
  · by_cases isAbove : id = ".."
    · rw [if_neg isHere, if_pos isAbove, UrlPath.push, if_pos (above.mpr isAbove)]
      simp [UrlPath.shorten, typeDrive]
    · rw [if_neg isHere, if_neg isAbove, UrlPath.push, if_neg (isAbove ∘ above.mp),
        if_neg (isHere ∘ here.mp)]
      rfl

omit plain in
/-- The text of a document's URL is put together from its parts. -/
theorem documentUri_toList (id : String) :
    (l.documentUri id).toList = (Url.assembled l.protocol.toList l.host.toList l.port
      [l.indexName.toList, l.docType.toList, (segment id).toList]).text := by
  have domain : l.domainUri.toList = l.protocol.toList ++ [':', '/', '/'] ++ l.host.toList
      ++ ({ host := .domain l.host.toList, port := l.port } : Authority).portText := by
    cases port : l.port with
    | none => simp [domainUri, port, Authority.portText]
    | some port => simp [domainUri, port, Authority.portText]
  simp [documentUri, typeUri, indexUri, domain, Url.text, Url.assembled, Url.beforePath,
    Url.marked, Authority.text, Authority.credentialsText, Authority.hasCredentials, Host.text,
    UrlPath.text]

/-- The text of a document's URL reads as its address. -/
theorem parse_documentUri (id : String) :
    Url.parse (l.documentUri id).toList = .ok (l.documentAddress id) := by
  have kept : ∀ part ∈ [l.indexName.toList, l.docType.toList, (segment id).toList],
      ∀ c ∈ part, Url.isKept c = true := by
    simp only [List.forall_mem_cons]
    exact ⟨isKept_of_plainName _ (isPlainName_indexName l plain),
      isKept_of_plainName _ plain.docType, isKept_of_segment id, by simp⟩
  obtain ⟨default, web⟩ : ∃ default, Url.IsWeb l.protocol.toList default := by
    rcases plain.protocol with http | https
    · exact ⟨80, http ▸ Url.IsWeb.http⟩
    · exact ⟨443, https ▸ Url.IsWeb.https⟩
  have kind := (web.spec l.protocol.toList default []).2.1
  have read := Url.parse_assembled l.protocol.toList default web l.host.toList plain.host l.port
    l.indexName.toList [l.docType.toList, (segment id).toList] kept
  have ports : (l.port.filter fun port =>
        some port != (Url.SchemeKind.ofScheme l.protocol.toList).defaultPort?)
      = l.port.filter (· != default) := by
    rw [kind]
    rfl
  rw [documentUri_toList, read, resolve_document l plain id, documentAddress, address, ports]

/-- Making a request to a document succeeds, whatever the id. -/
theorem make_documentUri (method : String) (id : String) (body : Option Json) :
    Http.Request.make method (l.documentUri id) body
      = .ok { method, url := l.documentAddress id, body } := by
  rw [Http.Request.make, parse_documentUri l plain id]
  rfl

omit plain

theorem documentPath_of_proper (id : String) (proper : id ≠ "." ∧ id ≠ "..") :
    l.documentPath id = [l.indexName.toList, l.docType.toList, (segment id).toList] := by
  rw [documentPath, if_neg proper.1, if_neg proper.2]

/-- Every id but the two dot segments has its document addressed. -/
theorem addresses_iff (id : String) :
    l.Addresses id (l.documentAddress id) ↔ id ≠ "." ∧ id ≠ ".." := by
  constructor
  · rintro ⟨-, ⟨part, path, bytes⟩, -, -⟩
    have parts : l.documentPath id = [l.indexName.toList, l.docType.toList, part] :=
      UrlPath.segments.inj path
    constructor
    · -- The empty segment decodes to no bytes, and a dot is one.
      intro same
      subst same
      have empty : ([] : List Char) = part := by simpa [documentPath] using parts
      rw [← empty] at bytes
      exact absurd bytes (by decide)
    · intro same
      subst same
      simp [documentPath] at parts
  · intro proper
    exact ⟨⟨l.documentPath id, rfl⟩, ⟨(segment id).toList,
      congrArg _ (documentPath_of_proper l id proper), decode_segment id⟩, rfl, rfl⟩

/-- Below the type, the dot stands for the empty id. -/
theorem documentPath_of_ne_parent (id : String) (inside : id ≠ "..") :
    l.documentPath id = [l.indexName.toList, l.docType.toList,
      (segment (if id = "." then "" else id)).toList] := by
  by_cases dot : id = "."
  · rw [documentPath, if_pos dot, if_pos dot]
    rfl
  · rw [documentPath_of_proper l id ⟨dot, inside⟩, if_neg dot]

/-- Only the empty id and the dot share an address. -/
theorem address_eq_iff (a b : String) :
    l.documentAddress a = l.documentAddress b ↔
      a = b ∨ (a = "" ∧ b = ".") ∨ (a = "." ∧ b = "") := by
  have parent : l.documentPath ".." = [l.indexName.toList, []] := rfl
  constructor
  · intro same
    have paths : l.documentPath a = l.documentPath b :=
      UrlPath.segments.inj (congrArg Url.path same)
    by_cases outsideA : a = ".." <;> by_cases outsideB : b = ".."
    · exact .inl (outsideA.trans outsideB.symm)
    · rw [outsideA, parent, documentPath_of_ne_parent l b outsideB] at paths
      simp at paths
    · rw [outsideB, parent, documentPath_of_ne_parent l a outsideA] at paths
      simp at paths
    · rw [documentPath_of_ne_parent l a outsideA, documentPath_of_ne_parent l b outsideB] at paths
      have read : (if a = "." then "" else a) = (if b = "." then "" else b) :=
        segment_injective _ _ (by simpa using paths)
      grind
  · rintro (rfl | ⟨rfl, rfl⟩ | ⟨rfl, rfl⟩) <;> rfl

end Locator

namespace SearchClient

variable (c : SearchClient) (plain : c.locator.IsPlain)
include plain

theorem index_eq (id : String) (doc : Json) :
    c.index id doc = .ok {
      request := {
        method := "PUT", url := c.locator.documentAddress id, body := some doc }
      read := Reply.indexed } := by
  rw [index, request, Locator.make_documentUri c.locator plain]
  rfl

theorem delete_eq (id : String) :
    c.delete id = .ok {
      request := { method := "DELETE", url := c.locator.documentAddress id }
      read := Reply.deleted } := by
  rw [delete, request, Locator.make_documentUri c.locator plain]
  rfl

/-- Storing and deleting send one request each, whatever the id. The request addresses the
document of the id exactly if the id is no dot segment, and two ids have one address only if they
are the empty id and the dot. -/
theorem document_addressed_unless_dots :
    (∀ id doc, c.index id doc = .ok {
      request := { method := "PUT", url := c.locator.documentAddress id, body := some doc }
      read := Reply.indexed }) ∧
    (∀ id, c.delete id = .ok {
      request := { method := "DELETE", url := c.locator.documentAddress id }
      read := Reply.deleted }) ∧
    (∀ id, c.locator.Addresses id (c.locator.documentAddress id) ↔ id ≠ "." ∧ id ≠ "..") ∧
    (∀ a b, c.locator.documentAddress a = c.locator.documentAddress b ↔
      a = b ∨ (a = "" ∧ b = ".") ∨ (a = "." ∧ b = "")) :=
  ⟨c.index_eq plain, c.delete_eq plain, c.locator.addresses_iff, c.locator.address_eq_iff⟩

omit plain

/-- A client of a place as configurations give it. -/
def lions : SearchClient := { config := { docType := "lions", indexPrefix := some "zoo" } }

theorem lions_isPlain : lions.locator.IsPlain where
  protocol := .inl rfl
  host := by decide
  docType := by decide
  indexPrefix := by
    rintro label ⟨⟩
    decide

/-- Slashes and escapes in an id stay in its segment. -/
theorem lions_addressed : lions.locator.IsPlain ∧
    lions.locator.Addresses "a/../%2e" (lions.locator.documentAddress "a/../%2e") :=
  ⟨lions_isPlain,
    ((document_addressed_unless_dots lions lions_isPlain).2.2.1 "a/../%2e").mpr (by decide)⟩

/-- Deleting the document `..` is asked of the index. -/
theorem parent_leaves_type : lions.locator.IsPlain ∧
    ((lions.delete "..").map (·.request.text)).toOption
      = some "DELETE http://localhost:9200/zoo-lions/" ∧
    ((lions.delete ".").map (·.request.url)).toOption
      = ((lions.delete "").map (·.request.url)).toOption ∧
    ∀ e, lions.delete ".." = .ok e → ¬ lions.locator.Addresses ".." e.request.url := by
  refine ⟨lions_isPlain, ?_, ?_, ?_⟩
  · rw [lions.delete_eq lions_isPlain]
    decide +kernel
  · rw [lions.delete_eq lions_isPlain, lions.delete_eq lions_isPlain]
    rfl
  · intro e sent addressed
    rw [lions.delete_eq lions_isPlain] at sent
    rw [← Except.ok.inj sent] at addressed
    exact absurd rfl ((lions.locator.addresses_iff "..").mp addressed).2

end SearchClient

end DocSearch
