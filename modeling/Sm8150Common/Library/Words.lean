import Sm8150Common.Library.InputStream

/-!
# Formatted input of words

The extraction of a word from a stream, and the loop that C++ writes as
`while (stream >> word)`.  A word ends at space or at the end of the stream, and only an
extraction that finds nothing but space fails.

`Lists` is the grammar: a text lists its words.  Every text lists exactly one sequence
(`existsUnique_lists`), the loop runs over it (`whileWord_eq`), and a sequence of words is
what its lines list (`lists_lines`).
-/
namespace InputStream

/-! ## Extraction -/

def notSpace (c : Char) : Bool := !isSpace c

/-- The operator `>>` for a string: the stream after it, and what the target holds. -/
def extractWord (s : InputStream) (target : String) : InputStream × String :=
  if s.eof || s.fail then ({ s with fail := true }, target)
  else if s.rest.all isSpace then (after [] true, target)
  else
    let cs := s.rest.dropWhile isSpace
    (after (cs.dropWhile notSpace) false, String.ofList (cs.takeWhile notSpace))

/-- There is something to extract. -/
theorem extractWord_of_ok {s : InputStream} {target : String}
    (h : (s.extractWord target).1.fail = false) : ¬ Blank s.rest ∧ s.extractWord target =
      (after ((s.rest.dropWhile isSpace).dropWhile notSpace) false,
        String.ofList ((s.rest.dropWhile isSpace).takeWhile notSpace)) := by
  by_cases hend : (s.eof || s.fail) = true
  · rw [extractWord, if_pos hend] at h
    cases h
  · by_cases hblank : s.rest.all isSpace = true
    · rw [extractWord, if_neg hend, if_pos hblank] at h
      cases h
    · exact ⟨fun hall => hblank (List.all_eq_true.mpr hall), by
        rw [extractWord, if_neg hend, if_neg hblank]⟩

theorem length_dropWhile_le (p : Char → Bool) (cs : List Char) :
    (cs.dropWhile p).length ≤ cs.length := by
  have hlength := congrArg List.length (@List.takeWhile_append_dropWhile _ p cs)
  rw [List.length_append] at hlength
  omega

/-- A text that is not blank has a first word. -/
theorem exists_word {cs : List Char} (h : ¬ Blank cs) : ∃ c tail,
    cs.dropWhile isSpace = c :: tail ∧ isSpace c = false := by
  have hhead := head?_dropWhile_not isSpace cs
  cases hdrop : cs.dropWhile isSpace with
  | nil =>
    refine absurd (fun c hc => ?_) h
    rw [← @List.takeWhile_append_dropWhile _ isSpace cs, hdrop, List.append_nil] at hc
    exact List.all_eq_true.mp List.all_takeWhile c hc
  | cons c tail =>
    rw [hdrop] at hhead
    exact ⟨c, tail, rfl, hhead c rfl⟩

theorem rest_extractWord_lt {s : InputStream} {target : String}
    (h : (s.extractWord target).1.fail = false) :
    (s.extractWord target).1.rest.length < s.rest.length := by
  obtain ⟨hblank, heq⟩ := extractWord_of_ok h
  obtain ⟨c, tail, hdrop, hc⟩ := exists_word hblank
  have hspaces := length_dropWhile_le isSpace s.rest
  have htail := length_dropWhile_le notSpace tail
  rw [heq, hdrop]
  rw [hdrop, List.length_cons] at hspaces
  have hskip : (c :: tail).dropWhile notSpace = tail.dropWhile notSpace := by
    rw [List.dropWhile_cons, notSpace, hc]
    rfl
  show ((c :: tail).dropWhile notSpace).length < s.rest.length
  rw [hskip]
  omega

/-- The loop `while (stream >> target)`, over the state its body changes. -/
def whileWord {β : Type} (body : β → String → β) (s : InputStream) (target : String) (b : β) : β :=
  if _h : (s.extractWord target).1.fail = false then
    whileWord body (s.extractWord target).1 (s.extractWord target).2
      (body b (s.extractWord target).2)
  else b
termination_by s.rest.length
decreasing_by exact rest_extractWord_lt _h

/-! ## What a text lists -/

/-- A word has characters, and none of them is space. -/
structure Word (w : String) : Prop where
  ne_nil : w.toList ≠ []
  notSpace : ∀ c ∈ w.toList, notSpace c = true

/-- The word before ends here. -/
def Ends (rest : List Char) : Prop := ∀ c, rest.head? = some c → notSpace c = false

/-- The words of a text, in their order. -/
inductive Lists : List Char → List String → Prop
  | blank {cs : List Char} (h : Blank cs) : Lists cs []
  | word {spaces rest : List Char} {w : String} {names : List String} (hspaces : Blank spaces)
      (hw : Word w) (hends : Ends rest) (hrest : Lists rest names) :
      Lists (spaces ++ (w.toList ++ rest)) (w :: names)

theorem Word.head {w : String} (h : Word w) (rest : List Char) :
    ∀ c, (w.toList ++ rest).head? = some c → isSpace c = false := by
  intro c hc
  obtain ⟨d, ds, hd⟩ := List.exists_cons_of_ne_nil h.ne_nil
  have hnot := h.notSpace d (hd ▸ List.mem_cons_self)
  rw [hd, List.cons_append, List.head?_cons, Option.some.injEq] at hc
  rw [← hc]
  simpa [InputStream.notSpace] using hnot

theorem Word.not_blank {w : String} (h : Word w) (spaces rest : List Char) :
    ¬ Blank (spaces ++ (w.toList ++ rest)) := by
  intro hblank
  obtain ⟨d, ds, hd⟩ := List.exists_cons_of_ne_nil h.ne_nil
  have hspace := hblank d (by simp [hd])
  rw [h.head rest d (by rw [hd]; rfl)] at hspace
  cases hspace

section Loop
variable {s : InputStream} {target : String}

theorem extractWord_of_blank (hblank : Blank s.rest) : (s.extractWord target).1.fail = true := by
  rw [extractWord]
  split
  · rfl
  · rw [if_pos (List.all_eq_true.mpr hblank)]
    rfl

theorem extractWord_of_word (hgood : s.fail = false) {spaces rest : List Char} {w : String}
    (hspaces : Blank spaces) (hw : Word w) (hends : Ends rest)
    (hrest : s.rest = spaces ++ (w.toList ++ rest)) :
    s.extractWord target = (after rest false, w) := by
  have hnot : ¬ Blank s.rest := hrest ▸ hw.not_blank spaces rest
  have hend : ¬ (s.eof || s.fail) = true := by
    rw [hgood, Bool.or_false]
    intro heof
    rw [s.atEnd heof] at hnot
    exact hnot fun _ hc => absurd hc List.not_mem_nil
  have hall : ¬ s.rest.all isSpace = true := fun hall => hnot (List.all_eq_true.mp hall)
  obtain ⟨-, hskip⟩ := span_append hspaces (hw.head rest)
  obtain ⟨htake, hdrop⟩ := span_append hw.notSpace hends
  rw [extractWord, if_neg hend, if_neg hall, hrest]
  dsimp only
  rw [hskip, htake, hdrop, String.ofList_toList]

/-- The loop runs over the words the text lists. -/
theorem whileWord_of_lists {β : Type} (body : β → String → β) (hgood : s.fail = false)
    {names : List String} (h : Lists s.rest names) (b : β) :
    whileWord body s target b = names.foldl body b := by
  generalize hcs : s.rest = cs at h
  induction h generalizing s target b with
  | blank hblank =>
    rw [whileWord, dif_neg]
    · rfl
    · rw [extractWord_of_blank (hcs ▸ hblank)]
      exact Bool.noConfusion
  | word hspaces hw hends hrest ih =>
    have hword := @extractWord_of_word s target hgood _ _ _ hspaces hw hends hcs
    rw [whileWord, dif_pos (by rw [hword]; rfl), hword]
    exact ih rfl _ rfl

end Loop

/-- Every text lists one sequence of words. -/
theorem exists_lists (cs : List Char) : ∃ names, Lists cs names := by
  by_cases hblank : Blank cs
  · exact ⟨[], .blank hblank⟩
  · obtain ⟨c, tail, hdrop, hc⟩ := exists_word hblank
    have hspaces := length_dropWhile_le isSpace cs
    rw [hdrop, List.length_cons] at hspaces
    have htail := length_dropWhile_le notSpace tail
    have hlt : (tail.dropWhile notSpace).length < cs.length := by omega
    obtain ⟨names, hnames⟩ := exists_lists (tail.dropWhile notSpace)
    have hword : Word (String.ofList (c :: tail.takeWhile notSpace)) := by
      refine ⟨by rw [String.toList_ofList]; exact List.cons_ne_nil _ _, fun d hd => ?_⟩
      rw [String.toList_ofList] at hd
      rcases List.mem_cons.mp hd with rfl | hd
      · rw [notSpace, hc]
        rfl
      · exact List.all_eq_true.mp List.all_takeWhile d hd
    have hsplit : cs = cs.takeWhile isSpace ++
        ((String.ofList (c :: tail.takeWhile notSpace)).toList ++ tail.dropWhile notSpace) := by
      rw [String.toList_ofList, List.cons_append, List.takeWhile_append_dropWhile, ← hdrop,
        List.takeWhile_append_dropWhile]
    have hblanks : Blank (cs.takeWhile isSpace) := List.all_eq_true.mp List.all_takeWhile
    have hlists := Lists.word hblanks hword (head?_dropWhile_not notSpace tail) hnames
    rw [← hsplit] at hlists
    exact ⟨_, hlists⟩
termination_by cs.length

/-- The words are read off by the loop, so that there is one sequence only. -/
theorem Lists.unique {cs : List Char} {names names' : List String} (h : Lists cs names)
    (h' : Lists cs names') : names = names' := by
  have hread : ∀ {ns : List String}, Lists cs ns →
      whileWord (fun b w => b ++ [w]) ⟨cs, false, false, fun h => Bool.noConfusion h⟩ "" [] = ns := by
    intro ns hns
    rw [whileWord_of_lists _ rfl hns, List.foldl_append_eq_append]
    exact List.flatMap_singleton' ns
  exact (hread h).symm.trans (hread h')

/-- Space in front changes nothing. -/
theorem Lists.space {c : Char} (hc : isSpace c = true) {cs : List Char} {names : List String}
    (h : Lists cs names) : Lists (c :: cs) names := by
  have hcons : ∀ {ds : List Char}, Blank ds → Blank (c :: ds) := by
    intro ds hds d hd
    rcases List.mem_cons.mp hd with rfl | hd
    · exact hc
    · exact hds d hd
  cases h with
  | blank hblank => exact .blank (hcons hblank)
  | @word spaces rest w names hspaces hw hends hrest =>
    exact Lists.word (hcons hspaces) hw hends hrest

/-- One word on each line. -/
def lines (names : List String) : List Char := names.flatMap fun w => w.toList ++ ['\n']

/-- A sequence of words is what its lines list. -/
theorem lists_lines {names : List String} (h : ∀ w ∈ names, Word w) : Lists (lines names) names := by
  induction names with
  | nil => exact .blank fun c hc => absurd hc List.not_mem_nil
  | cons w names ih =>
    have hrest := ih fun v hv => h v (List.mem_cons_of_mem _ hv)
    have hends : Ends ('\n' :: lines names) := by
      intro c hc
      cases hc
      decide
    have hlists := @Lists.word [] _ w names (fun c hc => absurd hc List.not_mem_nil)
      (h w List.mem_cons_self) hends (hrest.space (by decide))
    simpa [lines] using hlists

end InputStream
