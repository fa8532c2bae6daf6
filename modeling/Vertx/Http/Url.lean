import Vertx.Js.Uri

/-!
# Paths of URLs

The path of an http URL, as the URL parser writes it, begins with a slash, has path characters
only, and has no segment that stands for `.` or `..`.  The parser itself is a parameter:
`UrlParser.Standard` says what it does with the paths it writes.
-/

namespace Vertx

/-- A character that the URL parser leaves as it is in a path. -/
def isPathChar (c : Char) : Bool :=
  0x21 ≤ c.toNat && c.toNat ≤ 0x7E &&
    c.toNat ∉ [0x22, 0x23, 0x3C, 0x3E, 0x3F, 0x5C, 0x5E, 0x60, 0x7B, 0x7D]

/-- The spellings of a segment `.`. -/
def dots : List (List Char) := [['.'], ['%', '2', 'e'], ['%', '2', 'E']]

/-- A segment that the URL parser removes from a path. -/
def isDotSegment (s : List Char) : Bool :=
  s ∈ dots || s ∈ dots.flatMap fun a => dots.map (a ++ ·)

/-- What may follow the first slash of a path. -/
def isPathTail (q : List Char) : Bool :=
  q.all isPathChar && (q.splitOn '/').all fun s => !isDotSegment s

/-- A path as the URL parser writes it. -/
def isUrlPath : List Char → Bool
  | '/' :: q => isPathTail q
  | _ => false

/-- What the URL parser does for `fetch` and for the server. -/
structure UrlParser where
  /-- The request target that `fetch` sends for a URL; none when it throws. -/
  requestTarget : List Char → Option (List Char)
  /-- `new URL(target, "http://localhost").pathname`; none when it throws. -/
  pathname : List Char → Option (List Char)

/-- What the URL standard says of the parser, for URLs that begin with `origin`. -/
structure UrlParser.Standard (parser : UrlParser) (origin : List Char) : Prop where
  /-- A request target begins with a slash. -/
  target_slash : ∀ url t, parser.requestTarget url = some t → ['/'] <+: t
  /-- The path of a URL is kept when it is written as the parser writes paths. -/
  target_path : ∀ p, isUrlPath p → parser.requestTarget (origin ++ p) = some p
  /-- So is a request target, unless it names a host. -/
  pathname_path : ∀ p, isUrlPath p → ¬ ['/', '/'] <+: p → parser.pathname p = some p
  /-- The parser writes paths of this form. -/
  pathname_isUrlPath : ∀ t p, ['/'] <+: t → parser.pathname t = some p → isUrlPath p
  /-- The host in a target that begins with two slashes is no part of its path. -/
  pathname_host : ∀ t p, isUrlPath t → ['/', '/'] <+: t → parser.pathname t = some p →
    p = ['/'] ∨ p.count '/' + 2 ≤ t.count '/'

theorem isPathTail_append (a b : List Char) :
    isPathTail (a ++ '/' :: b) = (isPathTail a && isPathTail b) := by
  rw [Bool.eq_iff_iff]
  simp only [isPathTail, List.splitOn_append_cons_self, List.all_append, List.all_cons,
    Bool.and_eq_true, show isPathChar '/' = true from by decide, true_and]
  tauto

/-- A path can be cut at a slash. -/
theorem isUrlPath_append (p q : List Char) :
    isUrlPath (p ++ '/' :: q) = ((p = [] ∨ isUrlPath p) ∧ isPathTail q : Bool) := by
  cases p with
  | nil => simp [isUrlPath]
  | cons c p =>
    by_cases hc : c = '/'
    · subst hc
      simp [isUrlPath, isPathTail_append]
    · have hf (r : List Char) : isUrlPath (c :: r) = false := by
        unfold isUrlPath
        split
        · rename_i h
          exact absurd (List.cons.inj h).1 hc
        · rfl
      simp [hf]

theorem isPathTail_segment {s : List Char} (h : '/' ∉ s) :
    isPathTail s = (s.all isPathChar && !isDotSegment s) := by
  simp [isPathTail, List.splitOn_eq_singleton h]

theorem isPathChar_lt {c : Char} (h : isPathChar c) : c.toNat < 0x80 := by
  simp only [isPathChar, Bool.and_eq_true, decide_eq_true_eq] at h
  omega

/-! ## Escaped segments -/

section Escaped

open JsString

theorem unitChar_isPathChar {u : UInt16} (h : isUnreserved u) :
    isPathChar (unitChar u) ∧ unitChar u ≠ '/' ∧ unitChar u ≠ '%' ∧
      (unitChar u = '.' → u = 0x2E) := by
  have hall : ∀ n < 128, isUnreserved (UInt16.ofNat n) →
      isPathChar (unitChar (UInt16.ofNat n)) ∧ unitChar (UInt16.ofNat n) ≠ '/' ∧
        unitChar (UInt16.ofNat n) ≠ '%' ∧
        (unitChar (UInt16.ofNat n) = '.' → UInt16.ofNat n = 0x2E) := by
    decide +kernel
  have hu := hall u.toNat (isUnreserved_lt h)
  rw [UInt16.ofNat_toNat] at hu
  exact hu h

theorem escape_isPathChar {cp : ℕ} {c : Char} (h : c ∈ escape cp) : isPathChar c ∧ c ≠ '/' := by
  have hall : ('%' :: hexDigits).all (fun d => isPathChar d && d != '/') := by decide
  have hhex : ∀ d ∈ '%' :: hexDigits, isPathChar d ∧ d ≠ '/' := by
    simpa only [List.all_eq_true, Bool.and_eq_true, bne_iff_ne] using hall
  obtain ⟨b, -, hb⟩ := List.mem_flatMap.1 h
  refine hhex c ?_
  simp only [percentByte, List.mem_cons, List.not_mem_nil, or_false] at hb
  obtain rfl | rfl | rfl := hb
  · exact List.mem_cons_self
  · exact List.mem_cons_of_mem _ (hexDigit_mem _)
  · exact List.mem_cons_of_mem _ (hexDigit_mem _)

/-- Escaping leaves path characters only, and no slash. -/
theorem mem_encode {s : JsString} {e : List Char} (h : Encodes s e) {c : Char} (hc : c ∈ e) :
    isPathChar c ∧ c ≠ '/' := by
  induction h with
  | nil => cases hc
  | keep hu h ih =>
    rcases List.mem_cons.1 hc with rfl | hc
    · exact ⟨(unitChar_isPathChar hu).1, (unitChar_isPathChar hu).2.1⟩
    · exact ih hc
  | unit hu h ih | pair hu h ih =>
    rcases List.mem_append.1 hc with hc | hc
    · exact escape_isPathChar hc
    · exact ih hc

/-- An escaped text that begins with a per cent sign does not begin with `%2E`. -/
theorem encode_ne_percent {s : JsString} {e : List Char} {x : Char}
    (h : Encodes s ('%' :: '2' :: x :: e)) : x ≠ 'e' ∧ x ≠ 'E' := by
  generalize ht : '%' :: '2' :: x :: e = t at h
  have hesc : ∀ cp e', cp ≠ 0x2E → '%' :: '2' :: x :: e = escape cp ++ e' → x ≠ 'e' ∧ x ≠ 'E' := by
    intro cp e' hcp heq
    obtain ⟨a, b, r, hr, hab⟩ := escape_eq_cons hcp
    rw [hr] at heq
    simp only [List.cons_append, List.cons.injEq, true_and] at heq
    obtain ⟨rfl, rfl, -⟩ := heq
    simpa using hab
  cases h with
  | nil => cases ht
  | keep hu h => exact absurd (List.cons.inj ht).1.symm (unitChar_isPathChar hu).2.2.1
  | @unit u us e' hu h =>
    refine hesc _ e' (fun h2e => hu ?_) ht
    rw [show u = 0x2E from UInt16.toNat_inj.1 h2e]
    rfl
  | @pair u v vs e' hu h =>
    refine hesc _ e' ?_ ht
    unfold codePoint
    omega

/-- An escaped text that begins with a full stop comes from a string that does. -/
theorem encode_dot {s : JsString} {e : List Char} (h : Encodes s ('.' :: e)) :
    ∃ us, s = 0x2E :: us ∧ Encodes us e := by
  generalize ht : '.' :: e = t at h
  have hesc : ∀ cp e', '.' :: e ≠ escape cp ++ e' := by
    intro cp e' heq
    obtain ⟨b, bs, hb, -⟩ := utf8_head cp
    simp [escape, hb, percentByte] at heq
  cases h with
  | nil => cases ht
  | @keep u us e' hu h =>
    obtain ⟨h1, rfl⟩ := List.cons.inj ht
    exact ⟨us, by rw [(unitChar_isPathChar hu).2.2.2 h1.symm], h⟩
  | unit hu h | pair hu h => exact absurd ht (hesc _ _)

theorem encode_nil {s : JsString} (h : Encodes s []) : s = [] :=
  List.length_eq_zero_iff.1 (Nat.le_zero.1 h.length_le.1)

/-- Only the strings `.` and `..` are escaped to a dot segment. -/
theorem encode_dotSegment {s : JsString} {e : List Char} (h : Encodes s e)
    (hd : isDotSegment e) : s = [0x2E] ∨ s = [0x2E, 0x2E] := by
  have hpct : ∀ {s' r}, Encodes s' ('%' :: '2' :: 'e' :: r) → False := fun h =>
    (encode_ne_percent h).1 rfl
  have hpct' : ∀ {s' r}, Encodes s' ('%' :: '2' :: 'E' :: r) → False := fun h =>
    (encode_ne_percent h).2 rfl
  have hcases : e = ['.'] ∨ e = ['.', '.'] ∨ (∃ r, e = '%' :: '2' :: 'e' :: r) ∨
      (∃ r, e = '%' :: '2' :: 'E' :: r) ∨ (∃ r, e = '.' :: '%' :: '2' :: 'e' :: r) ∨
      ∃ r, e = '.' :: '%' :: '2' :: 'E' :: r := by
    simp only [isDotSegment, dots, List.flatMap_cons, List.flatMap_nil, List.map_cons,
      List.map_nil, List.cons_append, List.nil_append, Bool.or_eq_true, decide_eq_true_eq,
      List.mem_cons, List.not_mem_nil, or_false] at hd
    rcases hd with (rfl | rfl | rfl) | rfl | rfl | rfl | rfl | rfl | rfl | rfl | rfl | rfl <;> simp
  rcases hcases with rfl | rfl | ⟨r, rfl⟩ | ⟨r, rfl⟩ | ⟨r, rfl⟩ | ⟨r, rfl⟩
  · obtain ⟨us, rfl, hus⟩ := encode_dot h
    exact .inl (by rw [encode_nil hus])
  · obtain ⟨us, rfl, hus⟩ := encode_dot h
    obtain ⟨vs, rfl, hvs⟩ := encode_dot hus
    exact .inr (by rw [encode_nil hvs])
  · exact (hpct h).elim
  · exact (hpct' h).elim
  · obtain ⟨us, -, hus⟩ := encode_dot h
    exact (hpct hus).elim
  · obtain ⟨us, -, hus⟩ := encode_dot h
    exact (hpct' hus).elim

/-- Appending an escaped string to a path gives a path. -/
theorem isPathTail_encode {s : JsString} {e : List Char} (h : Encodes s e) (h1 : s ≠ [0x2E])
    (h2 : s ≠ [0x2E, 0x2E]) : isPathTail e := by
  rw [isPathTail_segment fun hm => (mem_encode h hm).2 rfl, Bool.and_eq_true, List.all_eq_true,
    Bool.not_eq_true', ← Bool.not_eq_true]
  exact ⟨fun c hc => (mem_encode h hc).1, fun hd => (encode_dotSegment h hd).elim h1 h2⟩

end Escaped

end Vertx
