/-
# `RowBridge.Proofs.Config.Quoting` — how a text is said in a variable

The value of a variable is read as more than a text where it can be
(`Shorthand.read`), so not every text says itself.

    a text                                                  is read as
    without blanks around it, not opening a list, a table
    or a quote, no truth value and no numeral               itself (`read_plain`)
    of characters that need no escape, in quotes            what is between the quotes
    of escapes only, in quotes                              the text of what they stand for

By the last row every text can be said (`read_spelled`).
-/
import RowBridge.Config.Shorthand

namespace RowBridge.Config.Shorthand

open Text

theorem read_of_value {t : String} {v : Value}
    (h : value (t.length + 1) t.toList = .ok (v, [])) : read t = .ok v := by
  rw [read, h]

/-! ## Texts that say themselves -/

/-- A text that is nothing but itself. -/
structure Plain (t : String) : Prop where
  trimmed : trimBlanks t.toList = t.toList
  unmarked : ∀ c ∈ t.toList.head?, c ∉ ['[', '{', '"', '\'']
  noTruth : t ≠ "true" ∧ t ≠ "false"
  noNumber : wholeNumber? t.toList = none
  noFloat : t.toList.contains '.' = true → decimal? t.toList = none

theorem isBlank_of_isBlank {c : Char} (h : isBlank c = true) : Text.isBlank c = true := by
  simp only [isBlank, List.contains_iff_mem, List.mem_cons, List.not_mem_nil, or_false] at h
  rcases h with rfl | rfl | rfl | rfl | rfl <;> decide +kernel

section
variable {s : List Char} (h : trimBlanks s = s)
include h

/-- A text without blanks around it loses none at either end. -/
theorem dropWhile_of_trimmed :
    s.dropWhile Text.isBlank = s ∧ s.reverse.dropWhile Text.isBlank = s.reverse := by
  have houter :=
    (List.dropWhile_suffix Text.isBlank (l := (s.dropWhile Text.isBlank).reverse)).length_le
  have hinner := List.dropWhile_suffix Text.isBlank (l := s)
  have hlength := congrArg List.length h
  rw [trimBlanks, List.length_reverse] at hlength
  rw [List.length_reverse] at houter
  have hstart : s.dropWhile Text.isBlank = s := by
    refine hinner.eq_of_length ?_
    have hle := hinner.length_le
    omega
  rw [trimBlanks, hstart] at h
  exact ⟨hstart, by rw [← List.reverse_reverse (s.reverse.dropWhile _), h]⟩

theorem skipBlanks_of_trimmed : skipBlanks s = s := by
  have hstart := (dropWhile_of_trimmed h).1
  cases s with
  | nil => rfl
  | cons c s =>
      refine List.dropWhile_cons_of_neg fun hc => ?_
      rw [List.dropWhile_cons_of_pos (isBlank_of_isBlank hc)] at hstart
      have hle := (List.dropWhile_suffix Text.isBlank (l := s)).length_le
      rw [hstart, List.length_cons] at hle
      omega

/-- What is left at its end is more than blanks. -/
theorem skipBlanks_ne_nil {before rest : List Char} (heq : s = before ++ rest)
    (hrest : rest ≠ []) : skipBlanks rest ≠ [] := by
  intro hnil
  have hall : rest.all isBlank = true := by
    have htaken := List.takeWhile_append_dropWhile (p := isBlank) (l := rest)
    rw [show rest.dropWhile isBlank = [] from hnil, List.append_nil] at htaken
    rw [← htaken]
    exact List.all_takeWhile
  have hend := (dropWhile_of_trimmed h).2
  rw [heq, ← List.dropLast_concat_getLast hrest, ← List.append_assoc, List.reverse_append,
    List.reverse_singleton, List.singleton_append] at hend
  have hlast := isBlank_of_isBlank (List.all_eq_true.mp hall _ (List.getLast_mem hrest))
  rw [List.dropWhile_cons_of_pos hlast] at hend
  have hle :=
    (List.dropWhile_suffix Text.isBlank (l := (before ++ rest.dropLast).reverse)).length_le
  rw [hend, List.length_cons] at hle
  omega

end

/-- The value at the start of a text that opens nothing. -/
theorem plainValue_of_unmarked {inner : Reading Value} {s : List Char}
    (h : ∀ c ∈ s.head?, c ∉ ['[', '{', '"', '\'']) :
    plainValue inner s =
      match after? "true".toList s, after? "false".toList s with
      | some rest, _ => .ok (.bool true, rest)
      | none, some rest => .ok (.bool false, rest)
      | none, none => .ok (word s) := by
  unfold plainValue
  split
  · exact absurd (.head _) (h _ rfl)
  · exact absurd (.tail _ (.head _)) (h _ rfl)
  · exact absurd (.tail _ (.tail _ (.head _))) (h _ rfl)
  · exact absurd (.tail _ (.tail _ (.tail _ (.head _)))) (h _ rfl)
  · rfl

/-- A text is read as itself if what its start is read as is not all of it. -/
theorem read_of_rest {t : String} {v : Value} {rest : List Char}
    (h : value (t.length + 1) t.toList = .ok (v, rest)) (hrest : rest ≠ []) :
    read t = .ok (.text t) := by
  rw [read, h]
  cases rest with
  | nil => exact absurd rfl hrest
  | cons c rest => rfl

theorem eq_append_of_after? {beginning s rest : List Char} (h : after? beginning s = some rest) :
    s = beginning ++ rest := by
  unfold after? at h
  split at h
  next hfirst =>
    cases h
    obtain ⟨tail, rfl⟩ := List.isPrefixOf_iff_prefix.mp hfirst
    rw [List.drop_left]
  · cases h

theorem Plain.ofWord {t : String} (h : Plain t) : ofWord t.toList = .text t := by
  unfold Shorthand.ofWord
  cases hpoint : t.toList.contains '.' with
  | false => simp [h.noNumber]
  | true => simp [h.noNumber, h.noFloat hpoint]

/-- A text that is nothing but itself is read as itself. -/
theorem read_plain {t : String} (h : Plain t) : read t = .ok (.text t) := by
  have hvalue : value (t.length + 1) t.toList =
      (plainValue (value t.length) t.toList).map fun p => (p.1, skipBlanks p.2) := by
    rw [value, skipBlanks_of_trimmed h.trimmed]
  rw [plainValue_of_unmarked h.unmarked] at hvalue
  have htruth : ∀ {truth : String} {rest : List Char}, t ≠ truth →
      after? truth.toList t.toList = some rest → skipBlanks rest ≠ [] := by
    intro truth rest hne hafter
    have heq := eq_append_of_after? hafter
    refine skipBlanks_ne_nil h.trimmed heq fun hnil => hne ?_
    rw [hnil, List.append_nil] at heq
    exact String.ext heq
  cases htrue : after? "true".toList t.toList with
  | some rest =>
      rw [htrue] at hvalue
      exact read_of_rest hvalue (htruth h.noTruth.1 htrue)
  | none =>
      cases hfalse : after? "false".toList t.toList with
      | some rest =>
          rw [htrue, hfalse] at hvalue
          exact read_of_rest hvalue (htruth h.noTruth.2 hfalse)
      | none =>
          rw [htrue, hfalse] at hvalue
          have hsplit := List.takeWhile_append_dropWhile (p := (!isDelimiter ·)) (l := t.toList)
          by_cases hrest : t.toList.dropWhile (!isDelimiter ·) = []
          · rw [hrest, List.append_nil] at hsplit
            refine read_of_value (hvalue.trans ?_)
            simp only [word, hsplit, h.trimmed, h.ofWord, hrest]
            rfl
          · exact read_of_rest hvalue (skipBlanks_ne_nil h.trimmed hsplit.symm hrest)

/-! ## Texts in quotes -/

theorem upToQuote?_append {inner : List Char} (h : ∀ c ∈ inner, c ≠ '"' ∧ c ≠ '\\')
    (s : List Char) :
    upToQuote? (inner ++ s) = (upToQuote? s).map fun (cs, rest) => (inner ++ cs, rest) := by
  induction inner with
  | nil => simp
  | cons c inner ih =>
      obtain ⟨⟨hquote, hslash⟩, hinner⟩ := List.forall_mem_cons.mp h
      have hcons : upToQuote? (c :: (inner ++ s)) =
          (upToQuote? (inner ++ s)).map fun (cs, rest) => (c :: cs, rest) := by
        rw [upToQuote?]
        · exact fun heq => hquote heq
        · exact fun _ _ heq => absurd heq hslash
      rw [List.cons_append, hcons, ih hinner, Option.map_map]
      rfl

theorem upToQuote?_escape (c : Char) (s : List Char) :
    upToQuote? ('\\' :: c :: s) = (upToQuote? s).map fun (cs, rest) => ('\\' :: c :: cs, rest) :=
  rfl

/-- A text in quotes is what the quoted characters stand for. -/
theorem read_of_unquoted {inner : List Char} {u : String}
    (hclosed : upToQuote? (inner ++ ['"']) = some (inner, [])) (hinner : unquoted inner = .ok u) :
    read (String.ofList ('"' :: (inner ++ ['"']))) = .ok (.text u) := by
  have hquoted : quotedText (inner ++ ['"']) = .ok (u, []) := by
    rw [quotedText, hclosed]
    change (unquoted inner).bind (fun u => pure (u, [])) = _
    rw [hinner]
    rfl
  refine read_of_value ?_
  have hopen : skipBlanks ('"' :: (inner ++ ['"'])) = '"' :: (inner ++ ['"']) :=
    List.dropWhile_cons_of_neg (by decide)
  rw [String.toList_ofList, value, hopen, plainValue, hquoted]
  rfl

/-- Characters that need no escape, in quotes. -/
theorem read_quoted {cs : List Char} (h : ∀ c ∈ cs, isPlain c = true ∧ c ≠ '"' ∧ c ≠ '\\') :
    read (String.ofList ('"' :: (cs ++ ['"']))) = .ok (.text (String.ofList cs)) := by
  refine read_of_unquoted ?_ ?_
  · rw [upToQuote?_append fun c hc => (h c hc).2]
    simp [upToQuote?]
  · have hall : ∀ c ∈ cs, (c != '\\') = true := fun c hc => bne_iff_ne.mpr (h c hc).2.2
    have hplain : cs.all isPlain = true := List.all_eq_true.mpr fun c hc => (h c hc).1
    have hbefore : cs.takeWhile (· != '\\') = cs := by
      simpa using @List.takeWhile_append_of_pos _ _ _ [] hall
    have hafter : cs.dropWhile (· != '\\') = [] := by
      simpa using @List.dropWhile_append_of_pos _ _ _ [] hall
    simp only [unquoted, hbefore, hafter, hplain]
    rfl

/-! ## Texts spelled out -/

def hexDigit (n : Nat) : Char := Char.ofNat (if n < 10 then 48 + n else 87 + n)

theorem digitValue?_hexDigit : ∀ n < 16, digitValue? (hexDigit n) = some n := by decide

theorem hexDigit_ne : ∀ n < 16, hexDigit n ≠ '"' ∧ hexDigit n ≠ '\\' := by decide

/-- A number of 32 bits in eight digits. -/
def eightDigits (n : Nat) : List Char :=
  [268435456, 16777216, 1048576, 65536, 4096, 256, 16, 1].map fun weight =>
    hexDigit (n / weight % 16)

/-- A character by its number. -/
def spelledChar (c : Char) : List Char := '\\' :: 'U' :: eightDigits c.toNat

/-- A text in quotes, with every character by its number. -/
def spelled (u : String) : String :=
  String.ofList ('"' :: (u.toList.flatMap spelledChar ++ ['"']))

theorem natural?_eightDigits {n : Nat} (h : n < 4294967296) :
    natural? 16 (eightDigits n) = some n := by
  have hstep : ∀ m k, ((digitValue? (hexDigit (k % 16))).bind fun d =>
      if d < 16 then some (m * 16 + d) else none) = some (m * 16 + k % 16) := by
    intro m k
    have hlt : k % 16 < 16 := Nat.mod_lt _ (by decide)
    rw [digitValue?_hexDigit _ hlt, Option.bind_some, if_pos hlt]
  simp only [natural?, eightDigits, List.map_cons, List.map_nil, List.isEmpty_cons,
    Bool.false_eq_true, if_false, List.foldlM_cons, List.foldlM_nil, hstep, Option.bind_eq_bind,
    Option.bind_some, Option.pure_def, Option.some.injEq]
  omega

theorem codePoint?_eightDigits (c : Char) : codePoint? (eightDigits c.toNat) = some c := by
  have hlt : c.toNat < 4294967296 := c.val.toNat_lt
  have hvalid : c.toNat.isValidChar := c.valid
  rw [codePoint?, natural?_eightDigits hlt, Option.bind_some, if_pos hvalid, Char.ofNat_toNat]

theorem escape?_eightDigits (c : Char) (s : List Char) :
    escape? ('U' :: (eightDigits c.toNat ++ s)) = some (c, s) := by
  have hcode := codePoint?_eightDigits c
  simp only [eightDigits, List.map_cons, List.map_nil] at hcode
  simp only [eightDigits, List.map_cons, List.map_nil, List.cons_append, List.nil_append,
    escape?, hcode]
  rfl

theorem unescaped?_flatMap (cs : List Char) {fuel : Nat} (h : cs.length < fuel) :
    unescaped? fuel (cs.flatMap spelledChar) = some cs := by
  induction cs generalizing fuel with
  | nil =>
      obtain ⟨fuel, rfl⟩ : ∃ k, fuel = k + 1 := ⟨fuel - 1, by omega⟩
      rfl
  | cons c cs ih =>
      obtain ⟨fuel, rfl⟩ : ∃ k, fuel = k + 1 := ⟨fuel - 1, by omega⟩
      rw [List.length_cons] at h
      have hescape : unescaped? (fuel + 1) ((c :: cs).flatMap spelledChar) =
          (escape? ('U' :: (eightDigits c.toNat ++ cs.flatMap spelledChar))).bind
            fun p => (unescaped? fuel p.2).map (p.1 :: ·) := rfl
      rw [hescape, escape?_eightDigits, Option.bind_some, ih (by omega)]
      rfl

theorem upToQuote?_flatMap (cs : List Char) :
    upToQuote? (cs.flatMap spelledChar ++ ['"']) = some (cs.flatMap spelledChar, []) := by
  induction cs with
  | nil => rfl
  | cons c cs ih =>
      have hdigits : ∀ d ∈ eightDigits c.toNat, d ≠ '"' ∧ d ≠ '\\' := by
        intro d hd
        obtain ⟨weight, -, rfl⟩ := List.mem_map.mp hd
        exact hexDigit_ne _ (Nat.mod_lt _ (by decide))
      rw [List.flatMap_cons, List.append_assoc, spelledChar, List.cons_append, List.cons_append,
        upToQuote?_escape, upToQuote?_append hdigits, ih]
      rfl

theorem length_le_flatMap (cs : List Char) : cs.length ≤ (cs.flatMap spelledChar).length := by
  induction cs with
  | nil => exact Nat.le_refl _
  | cons c cs ih =>
      rw [List.flatMap_cons, List.length_append, List.length_cons, spelledChar, List.length_cons]
      omega

/-- Nothing stands before the first escape, so nothing is lost there. -/
theorem unquoted_flatMap (cs : List Char) :
    unquoted (cs.flatMap spelledChar) = .ok (String.ofList cs) := by
  cases cs with
  | nil => rfl
  | cons c cs =>
      have hopen : unquoted ((c :: cs).flatMap spelledChar) =
          (orUnreadable (unescaped? (((c :: cs).flatMap spelledChar).length + 1)
            ((c :: cs).flatMap spelledChar))).bind fun cs => .ok (String.ofList cs) := rfl
      rw [hopen, unescaped?_flatMap _ (Nat.lt_succ_of_le (length_le_flatMap _))]
      rfl

/-- Every text can be said. -/
theorem read_spelled (u : String) : read (spelled u) = .ok (.text u) := by
  have hread := read_of_unquoted (upToQuote?_flatMap u.toList) (unquoted_flatMap u.toList)
  rw [String.ofList_toList] at hread
  exact hread

end RowBridge.Config.Shorthand
