import Mathlib.Logic.Basic
import Mathlib.Tactic.ByContra

/-!
# Formatted input of integers

A stream of characters, and the extraction of decimal integers from it as C++ does
it: a stream that has failed, or has nothing left but space, leaves the target
alone; what is not a number stores zero, and a number out of range stores the
limit it passed.  Any of these fails the stream, which then stays failed.

What a string holds is said by a grammar: `Reads` for one number and `Scans` for
several.  `extractAll_ok_iff` is the connection.
-/

/-- A stream, with the characters that are left.  The end is found only by running
into it. -/
structure InputStream where
  rest : List Char
  eof : Bool
  fail : Bool
  atEnd : eof = true → rest = []

namespace InputStream

/-! ## Numbers -/

/-- The six characters that count as space. -/
def isSpace (c : Char) : Bool := c = ' ' || (9 ≤ c.toNat && c.toNat ≤ 13)

/-- The value of decimal digits. -/
def value (digits : List Char) : Nat :=
  digits.foldl (fun v c => 10 * v + (c.toNat - '0'.toNat)) 0

/-- Whether there is a minus, and what comes after the sign. -/
def sign : List Char → Bool × List Char
  | '+' :: cs => (false, cs)
  | '-' :: cs => (true, cs)
  | cs => (false, cs)

/-- A sign and as many digits as there are; without a digit, no number. -/
def numeral (cs : List Char) : Option Int × List Char :=
  let (negative, cs) := sign cs
  let digits := cs.takeWhile Char.isDigit
  (if digits = [] then none
    else some (if negative then -(value digits : Int) else value digits),
    cs.dropWhile Char.isDigit)

/-- The number after the space. -/
def readInt (cs : List Char) : Option Int × List Char := numeral (cs.dropWhile isSpace)

/-! ## Extraction -/

/-- An `istringstream`. -/
def ofString (s : String) : InputStream := ⟨s.toList, false, false, fun h => Bool.noConfusion h⟩

/-- The limits of `int`, which has 32 bits. -/
def INT_MIN : Int := -2147483648
def INT_MAX : Int := 2147483647

/-- The stream after a conversion that left `rest`. -/
def after (rest : List Char) (fail : Bool) : InputStream :=
  ⟨rest, rest.isEmpty, fail, List.isEmpty_iff.mp⟩

/-- The operator `>>` for an integer between `lo` and `hi`: the stream after it, and
what the target holds. -/
def extract (lo hi : Int) (s : InputStream) (target : Int) : InputStream × Int :=
  if s.eof || s.fail then ({ s with fail := true }, target)
  else if s.rest.all isSpace then (after [] true, target)
  else
    match readInt s.rest with
    | (none, rest) => (after rest true, 0)
    | (some v, rest) =>
      if v < lo then (after rest true, lo)
      else if hi < v then (after rest true, hi)
      else (after rest false, v)

/-- A chain of extractions. -/
def extractAll (lo hi : Int) : InputStream → List Int → InputStream × List Int
  | s, [] => (s, [])
  | s, target :: targets =>
    let (s, v) := s.extract lo hi target
    let (s, vs) := extractAll lo hi s targets
    (s, v :: vs)

/-! ## What a string holds -/

/-- There is nothing but space. -/
def Blank (cs : List Char) : Prop := ∀ c ∈ cs, isSpace c = true

instance (cs : List Char) : Decidable (Blank cs) :=
  decidable_of_iff (cs.all isSpace = true) List.all_eq_true

structure Digits (cs : List Char) : Prop where
  ne_nil : cs ≠ []
  isDigit : ∀ c ∈ cs, c.isDigit = true

/-- A decimal integer. -/
inductive Numeral : Int → List Char → Prop
  | plain {digits : List Char} (h : Digits digits) : Numeral (value digits) digits
  | plus {digits : List Char} (h : Digits digits) : Numeral (value digits) ('+' :: digits)
  | minus {digits : List Char} (h : Digits digits) : Numeral (-(value digits : Int)) ('-' :: digits)

/-- The digits before end here. -/
def NoDigit (rest : List Char) : Prop := ∀ c, rest.head? = some c → c.isDigit = false

/-- The string begins, after space, with the whole of the number `v`. -/
def Reads (cs : List Char) (v : Int) (rest : List Char) : Prop :=
  ∃ spaces token, Blank spaces ∧ Numeral v token ∧ NoDigit rest ∧ cs = spaces ++ (token ++ rest)

/-- The string begins with the numbers `vs`, all of them in range. -/
def Scans (lo hi : Int) : List Char → List Int → Prop
  | _, [] => True
  | cs, v :: vs => ∃ rest, Reads cs v rest ∧ lo ≤ v ∧ v ≤ hi ∧ Scans lo hi rest vs

/-- As `Scans`, with space between any two numbers. -/
def Separated (lo hi : Int) : List Char → List Int → Prop
  | _, [] => True
  | cs, v :: vs => ∃ rest, Reads cs v rest ∧ lo ≤ v ∧ v ≤ hi ∧
      (vs ≠ [] → ∃ c ∈ rest.head?, isSpace c = true) ∧ Separated lo hi rest vs

theorem Separated.scans {lo hi : Int} {cs : List Char} {vs : List Int}
    (h : Separated lo hi cs vs) : Scans lo hi cs vs := by
  induction vs generalizing cs with
  | nil => trivial
  | cons v vs ih =>
    obtain ⟨rest, hread, hlo, hhi, -, hrest⟩ := h
    exact ⟨rest, hread, hlo, hhi, ih hrest⟩

/-! ## Reading a number -/

section Span
variable {p : Char → Bool} {body rest : List Char}

/-- Both halves of a string that is cut where `p` ends. -/
theorem span_append (hbody : ∀ c ∈ body, p c = true)
    (hrest : ∀ c, rest.head? = some c → p c = false) :
    (body ++ rest).takeWhile p = body ∧ (body ++ rest).dropWhile p = rest := by
  rw [List.takeWhile_append_of_pos hbody, List.dropWhile_append_of_pos hbody]
  cases rest with
  | nil => simp
  | cons c rest => simp [hrest c rfl]

theorem head?_dropWhile_not (p : Char → Bool) (cs : List Char) :
    ∀ c, (cs.dropWhile p).head? = some c → p c = false := by
  intro c hc
  have hnot := List.head?_dropWhile_not p cs
  rw [hc] at hnot
  exact hnot

end Span

theorem isDigit_not_space {c : Char} (h : c.isDigit = true) : isSpace c = false := by
  have hlow : 48 ≤ c.toNat := (Char.isDigit_iff_toNat.mp h).1
  have hne : c ≠ ' ' := by
    rintro rfl
    exact absurd hlow (by decide)
  simp only [isSpace, hne, decide_false, Bool.false_or, Bool.and_eq_false_iff,
    decide_eq_false_iff_not]
  omega

/-- A number does not begin with space. -/
theorem Numeral.head_not_space {v : Int} {token : List Char} (h : Numeral v token)
    (rest : List Char) : ∀ c, (token ++ rest).head? = some c → isSpace c = false := by
  intro c hc
  cases h with
  | plain h =>
    cases token with
    | nil => exact absurd rfl h.ne_nil
    | cons d digits =>
      obtain rfl : d = c := Option.some.inj hc
      exact isDigit_not_space (h.isDigit _ List.mem_cons_self)
  | plus h =>
    obtain rfl : '+' = c := Option.some.inj hc
    decide
  | minus h =>
    obtain rfl : '-' = c := Option.some.inj hc
    decide

/-- Digits have no sign. -/
theorem sign_digits {digits : List Char} (h : Digits digits) (rest : List Char) :
    sign (digits ++ rest) = (false, digits ++ rest) := by
  cases digits with
  | nil => exact absurd rfl h.ne_nil
  | cons d digits =>
    have hd := h.isDigit d List.mem_cons_self
    have hplus : d ≠ '+' := by
      rintro rfl
      exact absurd hd (by decide)
    have hminus : d ≠ '-' := by
      rintro rfl
      exact absurd hd (by decide)
    rw [List.cons_append, sign]
    · intro cs h
      exact hplus (List.cons.inj h).1
    · intro cs h
      exact hminus (List.cons.inj h).1

theorem numeral_append {v : Int} {token rest : List Char} (h : Numeral v token)
    (hrest : NoDigit rest) : numeral (token ++ rest) = (some v, rest) := by
  have hspan : ∀ {digits : List Char}, Digits digits →
      (digits ++ rest).takeWhile Char.isDigit = digits ∧
        (digits ++ rest).dropWhile Char.isDigit = rest :=
    fun hdigits => span_append hdigits.isDigit hrest
  unfold numeral
  cases h with
  | plain h =>
    obtain ⟨htake, hdrop⟩ := hspan h
    rw [sign_digits h]
    simp [htake, hdrop, h.ne_nil]
  | plus h =>
    obtain ⟨htake, hdrop⟩ := hspan h
    simp [sign, htake, hdrop, h.ne_nil]
  | minus h =>
    obtain ⟨htake, hdrop⟩ := hspan h
    simp [sign, htake, hdrop, h.ne_nil]

/-- What is taken for digits are the digits. -/
theorem digits_takeWhile {cs : List Char} (h : cs.takeWhile Char.isDigit ≠ []) :
    Digits (cs.takeWhile Char.isDigit) :=
  ⟨h, List.all_eq_true.mp List.all_takeWhile⟩

theorem sign_cases (cs : List Char) :
    (∃ after, cs = '+' :: after ∧ sign cs = (false, after)) ∨
    (∃ after, cs = '-' :: after ∧ sign cs = (true, after)) ∨ sign cs = (false, cs) := by
  unfold sign
  split
  · exact .inl ⟨_, rfl, rfl⟩
  · exact .inr (.inl ⟨_, rfl, rfl⟩)
  · exact .inr (.inr rfl)

theorem numeral_eq_some {cs rest : List Char} {v : Int} (h : numeral cs = (some v, rest)) :
    ∃ token, Numeral v token ∧ NoDigit rest ∧ cs = token ++ rest := by
  unfold numeral at h
  rcases sign_cases cs with ⟨after, rfl, hsign⟩ | ⟨after, rfl, hsign⟩ | hsign
  all_goals
    rw [hsign] at h
    dsimp only at h
    obtain ⟨hv, rfl⟩ := Prod.mk.inj h
    obtain ⟨hdigits, hv⟩ := Option.ite_none_left_eq_some.mp hv
    obtain rfl := Option.some.inj hv
    have hd := digits_takeWhile hdigits
    have hrest := head?_dropWhile_not Char.isDigit
  · exact ⟨_, .plus hd, hrest _, congrArg _ List.takeWhile_append_dropWhile.symm⟩
  · exact ⟨_, .minus hd, hrest _, congrArg _ List.takeWhile_append_dropWhile.symm⟩
  · exact ⟨_, .plain hd, hrest _, List.takeWhile_append_dropWhile.symm⟩

theorem reads_iff {cs rest : List Char} {v : Int} :
    Reads cs v rest ↔ readInt cs = (some v, rest) := by
  constructor
  · rintro ⟨spaces, token, hspaces, htoken, hrest, rfl⟩
    rw [readInt, (span_append hspaces (htoken.head_not_space rest)).2, numeral_append htoken hrest]
  · intro h
    obtain ⟨token, htoken, hrest, hcs⟩ := numeral_eq_some h
    refine ⟨cs.takeWhile isSpace, token, List.all_eq_true.mp List.all_takeWhile, htoken, hrest, ?_⟩
    rw [← hcs, List.takeWhile_append_dropWhile]

/-- One number at most can be read. -/
theorem Reads.unique {cs rest rest' : List Char} {v v' : Int} (h : Reads cs v rest)
    (h' : Reads cs v' rest') : v = v' ∧ rest = rest' := by
  have heq := (reads_iff.mp h).symm.trans (reads_iff.mp h')
  exact ⟨Option.some.inj (Prod.mk.inj heq).1, (Prod.mk.inj heq).2⟩

theorem Reads.not_blank {cs rest : List Char} {v : Int} (h : Reads cs v rest) : ¬ Blank cs := by
  obtain ⟨spaces, token, -, htoken, -, rfl⟩ := h
  intro hblank
  have hhead := htoken.head_not_space rest
  obtain ⟨c, cs, hcs⟩ : ∃ c cs, token ++ rest = c :: cs := by
    cases htoken with
    | plain h => exact List.exists_cons_of_ne_nil (List.append_ne_nil_of_left_ne_nil h.ne_nil _)
    | plus h => exact ⟨_, _, rfl⟩
    | minus h => exact ⟨_, _, rfl⟩
  rw [hcs] at hhead hblank
  have hspace := hblank c (List.mem_append_right _ List.mem_cons_self)
  rw [hhead c rfl] at hspace
  cases hspace

/-! ## What an extraction does -/

section Extract
variable {lo hi : Int} {s : InputStream} (target : Int)

/-- A stream that has failed, or has no more than space, leaves the target alone. -/
theorem extract_of_fail_or_blank (h : s.fail = true ∨ Blank s.rest) :
    (s.extract lo hi target).1.fail = true ∧ (s.extract lo hi target).2 = target := by
  unfold extract
  split
  · exact ⟨rfl, rfl⟩
  · next hgood =>
    rcases h with h | h
    · rw [h, Bool.or_true] at hgood
      exact absurd rfl hgood
    · rw [if_pos (List.all_eq_true.mpr h)]
      exact ⟨rfl, rfl⟩

/-- Any other stream is read. -/
theorem extract_of_good (hgood : s.fail = false) (hblank : ¬ Blank s.rest) :
    s.extract lo hi target =
      match readInt s.rest with
      | (none, rest) => (after rest true, 0)
      | (some v, rest) =>
        if v < lo then (after rest true, lo)
        else if hi < v then (after rest true, hi)
        else (after rest false, v) := by
  have hend : ¬ (s.eof || s.fail) = true := by
    rw [hgood, Bool.or_false]
    intro heof
    rw [s.atEnd heof] at hblank
    exact hblank fun _ hc => absurd hc List.not_mem_nil
  have hall : ¬ s.rest.all isSpace = true := fun hall => hblank (List.all_eq_true.mp hall)
  rw [extract, if_neg hend, if_neg hall]

/-- A number is stored when it is in range, and else the limit it passed. -/
theorem extract_of_reads (hgood : s.fail = false) {v : Int} {rest : List Char}
    (h : Reads s.rest v rest) : s.extract lo hi target =
      if v < lo then (after rest true, lo)
      else if hi < v then (after rest true, hi)
      else (after rest false, v) := by
  rw [extract_of_good target hgood h.not_blank, reads_iff.mp h]

/-- What is no number stores zero. -/
theorem extract_of_no_number (hgood : s.fail = false) (hblank : ¬ Blank s.rest)
    (hnone : ∀ v rest, ¬ Reads s.rest v rest) : (s.extract lo hi target).1.fail = true ∧
      (s.extract lo hi target).2 = 0 := by
  rw [extract_of_good target hgood hblank]
  rcases hread : readInt s.rest with ⟨_ | v, rest⟩
  · exact ⟨rfl, rfl⟩
  · exact absurd (reads_iff.mpr hread) (hnone v rest)

theorem extract_in_range (hgood : s.fail = false) {v : Int} {rest : List Char}
    (h : Reads s.rest v rest) (hlo : lo ≤ v) (hhi : v ≤ hi) :
    s.extract lo hi target = (after rest false, v) := by
  rw [extract_of_reads target hgood h, if_neg (by omega), if_neg (by omega)]

/-- **What an extraction does**: nothing, or it reads a number, or it finds none. -/
theorem extract_cases (lo hi : Int) (s : InputStream) (target : Int) :
    ((s.fail = true ∨ Blank s.rest) ∧
      (s.extract lo hi target).1.fail = true ∧ (s.extract lo hi target).2 = target) ∨
    (s.fail = false ∧ ∃ v rest, Reads s.rest v rest ∧ s.extract lo hi target =
      if v < lo then (after rest true, lo)
      else if hi < v then (after rest true, hi)
      else (after rest false, v)) ∨
    (s.fail = false ∧ ¬ Blank s.rest ∧ (∀ v rest, ¬ Reads s.rest v rest) ∧
      (s.extract lo hi target).1.fail = true ∧ (s.extract lo hi target).2 = 0) := by
  by_cases hstay : s.fail = true ∨ Blank s.rest
  · exact .inl ⟨hstay, extract_of_fail_or_blank target hstay⟩
  · obtain ⟨hgood, hblank⟩ := not_or.mp hstay
    have hgood := Bool.eq_false_iff.mpr hgood
    by_cases hread : ∃ v rest, Reads s.rest v rest
    · obtain ⟨v, rest, hread⟩ := hread
      exact .inr (.inl ⟨hgood, v, rest, hread, extract_of_reads target hgood hread⟩)
    · have hnone : ∀ v rest, ¬ Reads s.rest v rest := fun v rest h => hread ⟨v, rest, h⟩
      exact .inr (.inr ⟨hgood, hblank, hnone, extract_of_no_number target hgood hblank hnone⟩)

/-- An extraction succeeds when there is a number in range. -/
theorem extract_ok_iff : (s.extract lo hi target).1.fail = false ↔ s.fail = false ∧
    ∃ v rest, Reads s.rest v rest ∧ lo ≤ v ∧ v ≤ hi := by
  constructor
  · intro hok
    rcases extract_cases lo hi s target with
      ⟨-, hfail, -⟩ | ⟨hgood, v, rest, hread, heq⟩ | ⟨-, -, -, hfail, -⟩
    · rw [hfail] at hok
      cases hok
    · refine ⟨hgood, v, rest, hread, ?_⟩
      rw [heq] at hok
      by_cases hlow : v < lo
      · rw [if_pos hlow] at hok
        cases hok
      · by_cases hhigh : hi < v
        · rw [if_neg hlow, if_pos hhigh] at hok
          cases hok
        · omega
    · rw [hfail] at hok
      cases hok
  · rintro ⟨hgood, v, rest, hread, hlo, hhi⟩
    rw [extract_in_range target hgood hread hlo hhi]
    rfl

/-- The first extraction stores zero when the string begins with a zero or with no
number at all, or has only space and the target was zero before. -/
theorem extract_eq_zero_iff (hlo : lo < 0) (hhi : 0 < hi) (hgood : s.fail = false) :
    (s.extract lo hi target).2 = 0 ↔ Blank s.rest ∧ target = 0 ∨ (∃ rest, Reads s.rest 0 rest) ∨
      ¬ Blank s.rest ∧ ∀ v rest, ¬ Reads s.rest v rest := by
  rcases extract_cases lo hi s target with
    ⟨hstay, -, hsame⟩ | ⟨-, v, rest, hread, heq⟩ | ⟨-, hblank, hnone, -, hzero⟩
  · have hblank : Blank s.rest := hstay.resolve_left fun hfail => by
      rw [hgood] at hfail
      cases hfail
    rw [hsame]
    refine ⟨fun h => .inl ⟨hblank, h⟩, ?_⟩
    rintro (⟨-, h⟩ | ⟨rest, h⟩ | ⟨h, -⟩)
    · exact h
    · exact absurd hblank h.not_blank
    · exact absurd hblank h
  · have hstored : (s.extract lo hi target).2 = 0 ↔ v = 0 := by
      rw [heq]
      split
      · dsimp only
        omega
      · split
        · dsimp only
          omega
        · rfl
    rw [hstored]
    constructor
    · rintro rfl
      exact .inr (.inl ⟨rest, hread⟩)
    · rintro (⟨h, -⟩ | ⟨rest', h⟩ | ⟨-, h⟩)
      · exact absurd h hread.not_blank
      · exact (hread.unique h).1
      · exact absurd hread (h v rest)
  · exact ⟨fun _ => .inr (.inr ⟨hblank, hnone⟩), fun _ => hzero⟩

end Extract

/-! ## A chain of extractions -/

section ExtractAll
variable {lo hi : Int}

theorem extractAll_cons (s : InputStream) (target : Int) (targets : List Int) :
    s.extractAll lo hi (target :: targets) =
      let next := s.extract lo hi target
      let all := next.1.extractAll lo hi targets
      (all.1, next.2 :: all.2) := rfl

/-- The numbers the string begins with are what is stored. -/
theorem extractAll_of_scans {s : InputStream} {targets vs : List Int} (hgood : s.fail = false)
    (hlength : targets.length = vs.length) (h : Scans lo hi s.rest vs) :
    (s.extractAll lo hi targets).1.fail = false ∧ (s.extractAll lo hi targets).2 = vs := by
  induction targets generalizing s vs with
  | nil =>
    obtain rfl := List.length_eq_zero_iff.mp hlength.symm
    exact ⟨hgood, rfl⟩
  | cons target targets ih =>
    cases vs with
    | nil => cases hlength
    | cons v vs =>
      obtain ⟨rest, hread, hlo, hhi, hrest⟩ := h
      obtain ⟨hok, hvs⟩ := ih (s := after rest false) rfl (Nat.succ.inj hlength) hrest
      rw [extractAll_cons, extract_in_range target hgood hread hlo hhi]
      exact ⟨hok, congrArg _ hvs⟩

/-- Nothing is stored by a stream that has failed, or has no more than space. -/
theorem extractAll_of_fail_or_blank {s : InputStream} (targets : List Int)
    (h : s.fail = true ∨ Blank s.rest) : (s.extractAll lo hi targets).2 = targets := by
  induction targets generalizing s with
  | nil => rfl
  | cons target targets ih =>
    have hstay : (s.extract lo hi target).1.fail = true ∧ (s.extract lo hi target).2 = target :=
      extract_of_fail_or_blank target h
    rw [extractAll_cons]
    dsimp only
    rw [ih (.inl hstay.1), hstay.2]

/-- **What a stream that has not failed says**: the string begins with as many numbers
in range as there are targets. -/
theorem extractAll_ok_iff {s : InputStream} {targets : List Int} :
    (s.extractAll lo hi targets).1.fail = false ↔ s.fail = false ∧
      ∃ vs, targets.length = vs.length ∧ Scans lo hi s.rest vs := by
  constructor
  · intro hok
    induction targets generalizing s with
    | nil => exact ⟨hok, [], rfl, trivial⟩
    | cons target targets ih =>
      rw [extractAll_cons] at hok
      obtain ⟨hnext, vs, hlength, hscans⟩ := ih hok
      obtain ⟨hgood, v, rest, hread, hlo, hhi⟩ := (extract_ok_iff target).mp hnext
      rw [extract_in_range target hgood hread hlo hhi] at hscans
      exact ⟨hgood, v :: vs, congrArg Nat.succ hlength, rest, hread, hlo, hhi, hscans⟩
  · rintro ⟨hgood, vs, hlength, hscans⟩
    exact (extractAll_of_scans hgood hlength hscans).1

end ExtractAll

/-! ## Printed numbers -/

section Print

end Print

end InputStream
