import Mathlib

/-!
# Escaping of URI components

`encodeURIComponent` works on the code units of a string: it keeps the unreserved ones, escapes
every other character as the bytes of its UTF-8 form, and throws on a surrogate without its
partner.
-/

namespace Vertx

/-- A JavaScript string: its UTF-16 code units. -/
abbrev JsString := List UInt16

namespace JsString

/-- The code units of one character. -/
def ofChar (c : Char) : JsString :=
  if c.toNat < 0x10000 then [UInt16.ofNat c.toNat]
  else
    [UInt16.ofNat (0xD800 + (c.toNat - 0x10000) / 0x400),
      UInt16.ofNat (0xDC00 + (c.toNat - 0x10000) % 0x400)]

/-- The code units of a text. -/
def ofChars (cs : List Char) : JsString := cs.flatMap ofChar

/-- A code unit that `encodeURIComponent` keeps: a letter, a digit or one of `-_.!~*'()`. -/
def isUnreserved (u : UInt16) : Bool :=
  (0x41 ≤ u && u ≤ 0x5A) || (0x61 ≤ u && u ≤ 0x7A) || (0x30 ≤ u && u ≤ 0x39) ||
    u ∈ [0x2D, 0x5F, 0x2E, 0x21, 0x7E, 0x2A, 0x27, 0x28, 0x29]

def isLeadSurrogate (u : UInt16) : Bool := 0xD800 ≤ u && u ≤ 0xDBFF

def isTrailSurrogate (u : UInt16) : Bool := 0xDC00 ≤ u && u ≤ 0xDFFF

/-- The character of an unreserved code unit. -/
def unitChar (u : UInt16) : Char := Char.ofNat u.toNat

/-- The code point of a surrogate pair. -/
def codePoint (lead trail : UInt16) : ℕ :=
  0x10000 + (lead.toNat - 0xD800) * 0x400 + (trail.toNat - 0xDC00)

/-- The bytes of the UTF-8 form of a code point. -/
def utf8 (cp : ℕ) : List ℕ :=
  if cp < 0x80 then [cp]
  else if cp < 0x800 then [0xC0 + cp / 0x40, 0x80 + cp % 0x40]
  else if cp < 0x10000 then [0xE0 + cp / 0x1000, 0x80 + cp / 0x40 % 0x40, 0x80 + cp % 0x40]
  else
    [0xF0 + cp / 0x40000, 0x80 + cp / 0x1000 % 0x40, 0x80 + cp / 0x40 % 0x40, 0x80 + cp % 0x40]

def hexDigits : List Char :=
  ['0', '1', '2', '3', '4', '5', '6', '7', '8', '9', 'A', 'B', 'C', 'D', 'E', 'F']

/-- `%XX`. -/
def percentByte (b : ℕ) : List Char :=
  ['%', hexDigits.getD (b / 16) '0', hexDigits.getD (b % 16) '0']

def escape (cp : ℕ) : List Char := (utf8 cp).flatMap percentByte

/-- What a `URIError` is thrown for. -/
inductive UriError
  | malformed
  deriving DecidableEq, Repr

/-- `encodeURIComponent`. -/
def encodeURIComponent : JsString → Except UriError (List Char)
  | [] => .ok []
  | u :: us =>
    if isUnreserved u then (encodeURIComponent us).map (unitChar u :: ·)
    else if isTrailSurrogate u then .error .malformed
    else if isLeadSurrogate u then
      match us with
      | [] => .error .malformed
      | v :: vs =>
        if isTrailSurrogate v then (encodeURIComponent vs).map (escape (codePoint u v) ++ ·)
        else .error .malformed
    else (encodeURIComponent us).map (escape u.toNat ++ ·)

/-! ### What escaping gives -/

theorem isUnreserved_lt {u : UInt16} (h : isUnreserved u) : u.toNat < 0x80 := by
  simp only [isUnreserved, Bool.or_eq_true, Bool.and_eq_true, decide_eq_true_eq,
    UInt16.le_iff_toNat_le, List.mem_cons, List.not_mem_nil, or_false, ← UInt16.toNat_inj,
    UInt16.reduceToNat] at h
  omega

theorem unitChar_toNat {u : UInt16} (h : u.toNat < 0x80) : (unitChar u).toNat = u.toNat := by
  have hv : u.toNat.isValidChar := Or.inl (by omega)
  rw [unitChar, Char.ofNat, dif_pos hv]
  rfl

/-- A text of ASCII characters has one code unit for each of them. -/
theorem ofChars_length {cs : List Char} (h : ∀ c ∈ cs, c.toNat < 0x80) :
    (ofChars cs).length = cs.length := by
  induction cs with
  | nil => rfl
  | cons c cs ih =>
    have hc : c.toNat < 0x10000 := by
      have := h c List.mem_cons_self
      omega
    have hcs := ih fun d hd => h d (List.mem_cons_of_mem _ hd)
    simp only [ofChars] at hcs
    simp only [ofChars, List.flatMap_cons, ofChar, if_pos hc, List.singleton_append,
      List.length_cons, hcs]

theorem ofChars_unitChar {s : JsString} (h : ∀ u ∈ s, isUnreserved u) :
    ofChars (s.map unitChar) = s := by
  induction s with
  | nil => rfl
  | cons u us ih =>
    have hu := isUnreserved_lt (h u List.mem_cons_self)
    have hus := ih fun v hv => h v (List.mem_cons_of_mem _ hv)
    have hc : ofChar (unitChar u) = [u] := by
      rw [ofChar, unitChar_toNat hu, if_pos (by omega), UInt16.ofNat_toNat]
    simp only [ofChars] at hus
    simp only [ofChars, List.map_cons, List.flatMap_cons, hc, hus, List.singleton_append]

/-- What is made of unreserved code units only is not changed. -/
theorem encode_of_unreserved {s : JsString} (h : ∀ u ∈ s, isUnreserved u) :
    encodeURIComponent s = .ok (s.map unitChar) := by
  induction s with
  | nil => rfl
  | cons u us ih =>
    have hus := ih fun v hv => h v (List.mem_cons_of_mem _ hv)
    rw [encodeURIComponent.eq_def]
    simp only [h u List.mem_cons_self, hus, if_true]
    rfl

/-- How an escaped text arises, one character after the other. -/
inductive Encodes : JsString → List Char → Prop
  | nil : Encodes [] []
  | keep {u : UInt16} {us : JsString} {e : List Char} (hu : isUnreserved u) (h : Encodes us e) :
    Encodes (u :: us) (unitChar u :: e)
  | unit {u : UInt16} {us : JsString} {e : List Char} (hu : ¬ isUnreserved u) (h : Encodes us e) :
    Encodes (u :: us) (escape u.toNat ++ e)
  | pair {u v : UInt16} {vs : JsString} {e : List Char} (hu : ¬ isUnreserved u)
    (h : Encodes vs e) : Encodes (u :: v :: vs) (escape (codePoint u v) ++ e)

theorem encodes_of_encode {s : JsString} {e : List Char} (h : encodeURIComponent s = .ok e) :
    Encodes s e := by
  fun_induction encodeURIComponent s generalizing e with
  | case1 =>
    cases h
    exact .nil
  | case2 u us hu ih =>
    cases hus : encodeURIComponent us with
    | error x => simp [hus, Except.map] at h
    | ok e' =>
      simp only [hus, Except.map, Except.ok.injEq] at h
      exact h ▸ .keep hu (ih hus)
  | case3 | case4 | case6 => cases h
  | case5 u hu hut hul v vs hv ih =>
    cases hvs : encodeURIComponent vs with
    | error x => simp [hvs, Except.map] at h
    | ok e' =>
      simp only [hvs, Except.map, Except.ok.injEq] at h
      exact h ▸ .pair hu (ih hvs)
  | case7 u us hu hut hul ih =>
    cases hus : encodeURIComponent us with
    | error x => simp [hus, Except.map] at h
    | ok e' =>
      simp only [hus, Except.map, Except.ok.injEq] at h
      exact h ▸ .unit hu (ih hus)

theorem hexDigit_mem (i : ℕ) : hexDigits.getD i '0' ∈ hexDigits := by
  rw [List.getD_eq_getElem?_getD]
  cases h : hexDigits[i]? with
  | none => decide
  | some c => exact List.mem_of_getElem? h

theorem hexDigit_eq_two {i : ℕ} (h : hexDigits.getD i '0' = '2') : i = 2 := by
  by_cases hi : i < 16
  · interval_cases i <;> first | rfl | exact absurd h (by decide)
  · rw [List.getD_eq_default _ _ (by change 16 ≤ i; omega)] at h
    exact absurd h (by decide)

theorem hexDigit_eq_e {i : ℕ} (h : hexDigits.getD i '0' = 'e' ∨ hexDigits.getD i '0' = 'E') :
    i = 14 := by
  by_cases hi : i < 16
  · interval_cases i <;> first | rfl | exact absurd h (by decide)
  · rw [List.getD_eq_default _ _ (by change 16 ≤ i; omega)] at h
    exact absurd h (by decide)

/-- The first byte of a UTF-8 form: the code point itself below 128, else a lead byte. -/
theorem utf8_head (cp : ℕ) : ∃ b bs, utf8 cp = b :: bs ∧ (b = cp ∨ 0xC0 ≤ b) := by
  unfold utf8
  split_ifs with h1 h2 h3
  · exact ⟨cp, [], rfl, .inl rfl⟩
  · exact ⟨_, _, rfl, .inr (by omega)⟩
  · exact ⟨_, _, rfl, .inr (by omega)⟩
  · exact ⟨_, _, rfl, .inr (by omega)⟩

/-- The escaped form of anything but a full stop does not read `%2E`. -/
theorem escape_eq_cons {cp : ℕ} (hcp : cp ≠ 0x2E) :
    ∃ a b e, escape cp = '%' :: a :: b :: e ∧ ¬ (a = '2' ∧ (b = 'e' ∨ b = 'E')) := by
  obtain ⟨b, bs, hb, hlead⟩ := utf8_head cp
  refine ⟨_, _, bs.flatMap percentByte, by rw [escape, hb]; rfl, ?_⟩
  rintro ⟨h2, he⟩
  have h1 := hexDigit_eq_two h2
  have h3 := hexDigit_eq_e he
  omega

/-- An escaped text is at least as long as the string, and longer once it escapes something. -/
theorem Encodes.length_le {s : JsString} {e : List Char} (h : Encodes s e) :
    s.length ≤ e.length ∧ (e.length = s.length → ∀ u ∈ s, isUnreserved u) := by
  have hesc : ∀ cp, 3 ≤ (escape cp).length := by
    intro cp
    obtain ⟨b, bs, hb, -⟩ := utf8_head cp
    simp [escape, hb, percentByte]
  induction h with
  | nil => simp
  | keep hu h ih =>
    refine ⟨by simpa using ih.1, fun he => ?_⟩
    have hus := ih.2 (by simpa using he)
    simpa [hu] using hus
  | @unit u us e hu h ih =>
    have h3 := hesc u.toNat
    simp only [List.length_append, List.length_cons]
    exact ⟨by omega, fun he => by omega⟩
  | @pair u v vs e hu h ih =>
    have h3 := hesc (codePoint u v)
    simp only [List.length_append, List.length_cons]
    exact ⟨by omega, fun he => by omega⟩

end JsString
end Vertx
