import DocSearch.Proofs.Text.Numeral
import DocSearch.Proofs.Url.Host

/-!
# Addresses of the web read back

An address that is put together from a scheme of the web, a lettered host, a port and segments is
read back part by part: the host in lower case, the default port left out, the segments resolved.
No part spills over into the next one, and nothing is left for a query or a fragment.
-/
namespace DocSearch.Url

/-- The schemes of the web, with their default ports. -/
inductive IsWeb : List Char → UInt16 → Prop
  | http : IsWeb ['h', 't', 't', 'p'] 80
  | https : IsWeb ['h', 't', 't', 'p', 's'] 443

/-- The parts that an address is put together from. -/
def assembled (scheme host : List Char) (port : Option UInt16) (parts : List (List Char)) : Url :=
  { scheme, authority := some { host := .domain host, port }, path := .segments parts }

/-- What stays as it is in a segment of an address of the web. -/
def isKept (c : Char) : Bool :=
  c.toNat < 0x80 && !UrlPath.isEscaped c && c != '/' && c != '\\'

/-- A text is cut where what belongs to the front ends. -/
theorem cut_append (p : Char → Bool) (front back : List Char) (inside : ∀ c ∈ front, p c = true)
    (ends : back.head?.all (!p ·) = true) :
    (front ++ back).takeWhile p = front ∧ (front ++ back).dropWhile p = back := by
  rw [List.takeWhile_append_of_pos inside, List.dropWhile_append_of_pos inside]
  cases back with
  | nil => simp
  | cons c back =>
    have outside : ¬ p c = true := by simpa using ends
    simp [outside]

/-! ## The port -/

theorem portDigits_of_digits (digits : List Char) (n : Nat)
    (decimal : ∀ c ∈ digits, c.isDigit = true)
    (small : Nat.ofDigitChars 10 digits n ≤ 65535) :
    portDigits n digits = .ok (Nat.ofDigitChars 10 digits n, []) := by
  induction digits generalizing n with
  | nil => rfl
  | cons c digits ih =>
    obtain ⟨digit, rest⟩ := List.forall_mem_cons.mp decimal
    rw [Nat.ofDigitChars_cons, Nat.mul_comm 10 n] at small ⊢
    have bounded := Numeral.le_ofDigitChars digits (n * 10 + (c.toNat - '0'.toNat))
    have fits : ¬ 65535 < n * 10 + (c.toNat - '0'.toNat) := by omega
    rw [portDigits, if_pos digit, if_neg fits]
    exact ih _ rest small

/-- A written port is read back, but for the default one. -/
theorem readPort_portText (host : Host) (port : Option UInt16) (default : UInt16) :
    readPort (.special default) ({ host, port } : Authority).portText
      = .ok (port.filter (· != default), []) := by
  cases port with
  | none => rfl
  | some port =>
    have read := portDigits_of_digits (Nat.toDigits 10 port.toNat) 0
      (fun c found => Nat.isDigit_of_mem_toDigits (by decide) (by decide) found)
      (by
        rw [Nat.ofDigitChars_ten_toDigits]
        have bound := port.toNat_lt
        omega)
    rw [Nat.ofDigitChars_ten_toDigits] at read
    have written : ¬ ([] : List Char).length = (Nat.toDigits 10 port.toNat).length := by
      have positive := Nat.length_toDigits_pos (b := 10) (n := port.toNat)
      simp only [List.length_nil]
      omega
    have value : UInt16.ofNat port.toNat = port := UInt16.ofNat_toNat
    simp only [Authority.portText, readPort, read, bind, Except.bind, pure, Except.pure, value,
      SchemeKind.defaultPort?, written, false_or, Option.some.injEq]
    by_cases usual : default = port
    · simp [usual, Option.filter_some]
    · simp [usual, Ne.symm usual, Option.filter_some]

/-! ## The authority -/

theorem splitPort_append (host : List Char) (port : List Char)
    (plain : ∀ c ∈ host, c ≠ ':' ∧ c ≠ '[' ∧ c ≠ ']') (ends : port = [] ∨ port.head? = some ':') :
    splitPort false (host ++ port) = (host, port) := by
  induction host with
  | nil =>
    cases port with
    | nil => rfl
    | cons c rest =>
      have colon : c = ':' := by simpa using ends
      rw [colon]
      rfl
  | cons c host ih =>
    obtain ⟨⟨colon, opening, closing⟩, rest⟩ := List.forall_mem_cons.mp plain
    simp [splitPort, colon, opening, closing, ih rest]

theorem portText_head (host : Host) (port : Option UInt16) :
    ({ host, port } : Authority).portText = []
      ∨ ({ host, port } : Authority).portText.head? = some ':' := by
  cases port with
  | none => exact .inl rfl
  | some port => exact .inr rfl

/-- What a lettered host and a port are written with. -/
def isAuthorityChar (c : Char) : Bool := Domain.isLetterOrDot c || c.isDigit || c == ':'

theorem endsAuthority_of_authorityChar (c : Char) (written : isAuthorityChar c = true) :
    endsAuthority true c = false := by
  simp only [endsAuthority, isSlash, Bool.true_and, Bool.or_eq_false_iff, beq_eq_false_iff_ne]
  refine ⟨⟨⟨?_, ?_⟩, ?_⟩, ?_⟩ <;> rintro rfl <;> exact absurd written (by decide)

theorem printed_of_authorityChar (c : Char) (written : isAuthorityChar c = true) :
    0x20 < c.toNat := by
  by_cases ascii : c.toNat < 0x80
  · exact Utf8.forall_ascii (fun c => isAuthorityChar c = true → 0x20 < c.toNat)
      (by decide +kernel) c ascii written
  · omega

theorem mem_authority (host : List Char) (lettered : Domain.isLettered host = true)
    (port : Option UInt16) (c : Char)
    (found : c ∈ host ++ ({ host := .domain host, port } : Authority).portText) :
    isAuthorityChar c = true := by
  rcases List.mem_append.mp found with named | written
  · simp [isAuthorityChar, Domain.mem_of_isLettered host lettered c named]
  · cases port with
    | none => simp [Authority.portText] at written
    | some port =>
      simp only [Authority.portText, List.mem_cons] at written
      rcases written with rfl | digit
      · rfl
      · simp [isAuthorityChar, Nat.isDigit_of_mem_toDigits (by decide) (by decide) digit]

/-- A lettered host and a port are all of an authority. -/
theorem readAuthority_assembled (host : List Char) (lettered : Domain.isLettered host = true)
    (port : Option UInt16) (default : UInt16) (after : List Char) :
    readAuthority (.special default)
        (host ++ ({ host := .domain host, port } : Authority).portText) after
      = .ok ({ host := .domain (host.map Char.toLower), port := port.filter (· != default) },
          []) := by
  have plain : ∀ c ∈ host, c ≠ ':' ∧ c ≠ '[' ∧ c ≠ ']' := by
    intro c found
    have named := Domain.mem_of_isLettered host lettered c found
    refine ⟨?_, ?_, ?_⟩ <;> rintro rfl <;> exact absurd named (by decide)
  have text := mem_authority host lettered port
  have halves := splitPort_append host _ plain (portText_head (.domain host) port)
  have rest := readPort_portText (.domain host) port default
  generalize ({ host := .domain host, port } : Authority).portText = portText at text halves rest ⊢
  have unnamed : '@' ∉ host ++ portText := fun found => absurd (text '@' found) (by decide)
  have anonymous : splitCredentials (host ++ portText) = none :=
    if_neg fun found => unnamed (List.contains_iff_mem.mp found)
  have unmarked : ¬ (host ++ portText = ['@'] ∧ after ≠ []) := fun marked =>
    unnamed (marked.1 ▸ List.mem_singleton.mpr rfl)
  have noLogin : readCredentials [] = ([], []) := rfl
  have filled : host.isEmpty = false :=
    List.isEmpty_eq_false_iff.mpr (Domain.ne_nil_of_isLettered host lettered)
  have present : (Host.domain (host.map Char.toLower)).isAbsent = false := by
    simpa [Host.isAbsent, Host.absent] using Domain.ne_nil_of_isLettered host lettered
  simp only [readAuthority, anonymous, Option.getD_none, noLogin, if_neg unmarked, halves, filled,
    Bool.and_false, SchemeKind.isSpecial, specialHost_of_isLettered host lettered, present, rest,
    bind, Except.bind, pure, Except.pure, Bool.false_and, Bool.false_eq_true, if_false]
  rfl

/-! ## The path -/

/-- No character of a segment ends it, the path or the authority, or is escaped or dropped. -/
theorem isKept_spec (c : Char) (kept : isKept c = true) :
    c.toNat < 0x80 ∧ UrlPath.isEscaped c = false ∧ c ≠ '/' ∧ c ≠ '\\' := by
  simpa [isKept, and_assoc] using kept

theorem printed_of_kept (c : Char) (kept : isKept c = true) : 0x20 < c.toNat :=
  Utf8.forall_ascii (fun c => isKept c = true → 0x20 < c.toNat) (by decide +kernel) c
    (isKept_spec c kept).1 kept

section
variable (parts : List (List Char)) (kept : ∀ part ∈ parts, ∀ c ∈ part, isKept c = true)
include kept

theorem mem_pathText (c : Char) (found : c ∈ (UrlPath.segments parts).text) :
    c = '/' ∨ isKept c = true := by
  obtain ⟨part, member, inside⟩ := List.mem_flatMap.mp found
  rcases List.mem_cons.mp inside with slash | here
  · exact .inl slash
  · exact .inr (kept part member c here)

/-- A path of segments holds no query and no fragment. -/
theorem splitPath_segments :
    splitPath (UrlPath.segments parts).text = ((UrlPath.segments parts).text, []) := by
  have onward : ∀ c ∈ (UrlPath.segments parts).text, !(c == '?' || c == '#') := by
    intro c found
    rcases mem_pathText parts kept c found with rfl | here
    · rfl
    · have unescaped := (isKept_spec c here).2.1
      rw [Bool.not_eq_true', Bool.or_eq_false_iff, beq_eq_false_iff_ne, beq_eq_false_iff_ne]
      constructor <;> rintro rfl <;> exact absurd unescaped (by decide)
  have cut := cut_append _ (UrlPath.segments parts).text [] onward rfl
  rw [List.append_nil] at cut
  rw [splitPath, cut.1, cut.2]

end

theorem slash_free_of_kept (part : List Char) (kept : ∀ c ∈ part, isKept c = true) (c : Char)
    (found : c ∈ part) : (c == '/' || true && c == '\\') = false := by
  obtain ⟨-, -, slash, backslash⟩ := isKept_spec c (kept c found)
  simp [slash, backslash]

/-- Segments are split where they were joined. -/
theorem split_segments (part : List Char) (parts : List (List Char))
    (kept : ∀ p ∈ part :: parts, ∀ c ∈ p, isKept c = true) :
    UrlPath.split true (part ++ (UrlPath.segments parts).text) = part :: parts := by
  have free := slash_free_of_kept part (kept part List.mem_cons_self)
  induction parts generalizing part with
  | nil =>
    rw [UrlPath.text, List.flatMap_nil, List.append_nil]
    exact List.splitOnP_eq_singleton free
  | cons next parts ih =>
    obtain ⟨-, rest⟩ := List.forall_mem_cons.mp kept
    have later := ih next rest (slash_free_of_kept next (rest next List.mem_cons_self))
    calc UrlPath.split true (part ++ (UrlPath.segments (next :: parts)).text)
        = part :: UrlPath.split true (next ++ (UrlPath.segments parts).text) :=
          List.splitOnP_append_cons_of_forall_mem free '/' rfl _
      _ = part :: next :: parts := by rw [later]

theorem encode_kept (part : List Char) (kept : ∀ c ∈ part, isKept c = true) :
    Percent.encode UrlPath.isEscaped part = part := by
  apply Percent.encode_eq_self
  intro c found
  obtain ⟨ascii, unescaped, -⟩ := isKept_spec c (kept c found)
  exact ⟨ascii, unescaped⟩

/-- The path of an address has the segments it was written with, resolved. -/
theorem pathAfterAuthority_segments (part : List Char) (parts : List (List Char))
    (kept : ∀ p ∈ part :: parts, ∀ c ∈ p, isKept c = true) :
    pathAfterAuthority true (UrlPath.segments (part :: parts)).text
      = .segments (UrlPath.resolve false [] (part :: parts)) := by
  have unchanged : (part :: parts).map (Percent.encode UrlPath.isEscaped) = part :: parts :=
    (List.map_congr_left fun p member => encode_kept p (kept p member)).trans (List.map_id _)
  have split := split_segments part parts kept
  calc pathAfterAuthority true (UrlPath.segments (part :: parts)).text
      = .segments (UrlPath.ofText true false (part ++ (UrlPath.segments parts).text)) := rfl
    _ = .segments (UrlPath.resolve false [] (part :: parts)) := by
        rw [UrlPath.ofText, split, unchanged]

/-! ## The whole address -/

theorem dropWhile_eq_self (p : Char → Bool) (text : List Char) (none : ∀ c ∈ text, p c = false) :
    text.dropWhile p = text := by
  cases text with
  | nil => rfl
  | cons c rest => rw [List.dropWhile_cons, none c List.mem_cons_self, if_neg Bool.false_ne_true]

/-- Nothing is dropped from a text without blanks and controls. -/
theorem cleaned_eq_self (text : List Char) (printed : ∀ c ∈ text, 0x20 < c.toNat) :
    cleaned text = text := by
  have inner : ∀ c ∈ text, decide (c.toNat ≤ 0x20) = false := by
    intro c found
    have above := printed c found
    exact decide_eq_false (by omega)
  have front := dropWhile_eq_self (fun c => decide (c.toNat ≤ 0x20)) text inner
  have back := dropWhile_eq_self (fun c => decide (c.toNat ≤ 0x20)) text.reverse
    fun c found => inner c (List.mem_reverse.mp found)
  rw [cleaned, front, back, List.reverse_reverse, List.filter_eq_self]
  intro c found
  have above := printed c found
  have marks : c ≠ '\t' ∧ c ≠ '\n' ∧ c ≠ '\r' := by
    refine ⟨?_, ?_, ?_⟩ <;> rintro rfl <;> exact absurd above (by decide)
  simp [marks]

/-- What stands behind the scheme of an address is its authority and its path. -/
theorem withAuthority_assembled (scheme host : List Char)
    (lettered : Domain.isLettered host = true) (port : Option UInt16) (default : UInt16)
    (part : List Char) (parts : List (List Char))
    (kept : ∀ p ∈ part :: parts, ∀ c ∈ p, isKept c = true) :
    withAuthority scheme (.special default)
        (host ++ ({ host := .domain host, port } : Authority).portText
          ++ (UrlPath.segments (part :: parts)).text)
      = .ok (assembled scheme (host.map Char.toLower) (port.filter (· != default))
          (UrlPath.resolve false [] (part :: parts))) := by
  have read := readAuthority_assembled host lettered port default
    (UrlPath.segments (part :: parts)).text
  have inside : ∀ c ∈ host ++ ({ host := .domain host, port } : Authority).portText,
      (!endsAuthority true c) = true := by
    intro c found
    have written := mem_authority host lettered port c found
    rw [endsAuthority_of_authorityChar c written, Bool.not_false]
  have cut := cut_append _ _ (UrlPath.segments (part :: parts)).text inside rfl
  have special : (SchemeKind.special default).isSpecial = true := rfl
  have nothing : queryAndFragment true [] = (none, none) := rfl
  simp only [withAuthority, special, cut.1, cut.2, read, bind, Except.bind, List.nil_append,
    splitPath_segments (part :: parts) kept, nothing, pathAfterAuthority_segments part parts kept]
  rfl

theorem IsWeb.spec (scheme : List Char) (default : UInt16) (web : IsWeb scheme default)
    (rest : List Char) :
    (∀ c ∈ scheme, 0x20 < c.toNat) ∧ SchemeKind.ofScheme scheme = .special default ∧
      scheme? (scheme ++ ':' :: rest) = some (scheme, rest) := by
  cases web with
  | http => exact ⟨by simp, by decide, rfl⟩
  | https => exact ⟨by simp, by decide, rfl⟩

/-- The scheme is read up to its colon, and the slashes of the authority are passed over. -/
theorem parse_behind_scheme (scheme : List Char) (default : UInt16) (web : IsWeb scheme default)
    (c : Char) (rest : List Char) (free : isSlash true c = false)
    (printed : ∀ d ∈ c :: rest, 0x20 < d.toNat) :
    parse (scheme ++ ':' :: '/' :: '/' :: c :: rest)
      = withAuthority scheme (.special default) (c :: rest) := by
  obtain ⟨plain, kind, split⟩ := web.spec scheme default ('/' :: '/' :: c :: rest)
  have slashes : List.dropWhile (isSlash true) ('/' :: '/' :: c :: rest) = c :: rest := by
    rw [List.dropWhile_cons_of_pos (by decide), List.dropWhile_cons_of_pos (by decide),
      List.dropWhile_cons_of_neg (by simp [free])]
  have clean : cleaned (scheme ++ ':' :: '/' :: '/' :: c :: rest)
      = scheme ++ ':' :: '/' :: '/' :: c :: rest := by
    apply cleaned_eq_self
    intro d found
    have signs : ∀ e ∈ [':', '/', '/'], 0x20 < e.toNat := by simp
    rcases List.mem_append.mp found with front | behind
    · exact plain d front
    · exact List.forall_mem_append.mpr ⟨signs, printed⟩ d behind
  simp only [parse, clean, split, kind, slashes]

/-- An address read back: the host in lower case, the default port left out, and the segments
resolved. -/
theorem parse_assembled (scheme : List Char) (default : UInt16) (web : IsWeb scheme default)
    (host : List Char) (lettered : Domain.isLettered host = true) (port : Option UInt16)
    (part : List Char) (parts : List (List Char))
    (kept : ∀ p ∈ part :: parts, ∀ c ∈ p, isKept c = true) :
    parse (assembled scheme host port (part :: parts)).text
      = .ok (assembled scheme (host.map Char.toLower) (port.filter (· != default))
          (UrlPath.resolve false [] (part :: parts))) := by
  have read := withAuthority_assembled scheme host lettered port default part parts kept
  have writtenHost := mem_authority host lettered port
  have whole : (assembled scheme host port (part :: parts)).text
      = scheme ++ ':' :: '/' :: '/' :: (host
          ++ ({ host := .domain host, port } : Authority).portText
          ++ (UrlPath.segments (part :: parts)).text) := by
    simp [text, assembled, beforePath, marked, Authority.text, Authority.credentialsText,
      Authority.hasCredentials, Host.text]
  have printed : ∀ c ∈ host ++ ({ host := .domain host, port } : Authority).portText
      ++ (UrlPath.segments (part :: parts)).text, 0x20 < c.toNat := by
    intro c found
    rcases List.mem_append.mp found with authority | path
    · exact printed_of_authorityChar c (writtenHost c authority)
    · rcases mem_pathText (part :: parts) kept c path with rfl | here
      · decide
      · exact printed_of_kept c here
  rw [whole, ← read]
  cases host with
  | nil => exact absurd rfl (Domain.ne_nil_of_isLettered [] lettered)
  | cons c host =>
    have ends := endsAuthority_of_authorityChar c (writtenHost c List.mem_cons_self)
    simp only [endsAuthority, Bool.or_eq_false_iff] at ends
    exact parse_behind_scheme scheme default web c _ ends.1.1 printed

end DocSearch.Url
