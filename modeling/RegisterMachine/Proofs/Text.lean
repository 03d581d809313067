import RegisterMachine.Text.Basic

/-!
Blanks and lines of a text. What is left of a text without its outer blanks begins and ends solid.
A text of whole lines can be put in front of another without touching its lines, and the lines of a
text that was written line by line are the ones written.
-/

namespace RegisterMachine.Text

variable {text line : List Char} {c : Char} {found : List (List Char)}

/-- The text begins with a character that is not blank. -/
def StartsSolid (text : List Char) : Prop :=
  ∃ c, text.head? = some c ∧ isBlank c = false

/-- The text ends with a character that is not blank. -/
def EndsSolid (text : List Char) : Prop :=
  ∃ c, text.getLast? = some c ∧ isBlank c = false

theorem StartsSolid.append (h : StartsSolid text) (rest : List Char) :
    StartsSolid (text ++ rest) := by
  obtain ⟨c, hhead, hc⟩ := h
  exact ⟨c, by simp [List.head?_append, hhead], hc⟩

theorem EndsSolid.append (h : EndsSolid text) (front : List Char) :
    EndsSolid (front ++ text) := by
  obtain ⟨c, hlast, hc⟩ := h
  exact ⟨c, by simp [List.getLast?_append, hlast], hc⟩

theorem trimStart_of_startsSolid (h : StartsSolid text) : trimStart text = text := by
  obtain ⟨c, hhead, hc⟩ := h
  obtain ⟨rest, rfl⟩ := List.head?_eq_some_iff.mp hhead
  exact List.dropWhile_cons_of_neg (by simp [hc])

theorem trimEnd_of_endsSolid (h : EndsSolid text) : trimEnd text = text := by
  obtain ⟨c, hlast, hc⟩ := h
  obtain ⟨front, rfl⟩ := List.getLast?_eq_some_iff.mp hlast
  simp [trimEnd, hc]

theorem trim_of_solid (hstart : StartsSolid text) (hend : EndsSolid text) : trim text = text := by
  rw [trim, trimStart_of_startsSolid hstart, trimEnd_of_endsSolid hend]

theorem trim_cons_of_isBlank (h : isBlank c = true) (text : List Char) :
    trim (c :: text) = trim text := by
  rw [trim, trimStart, List.dropWhile_cons_of_pos h]
  rfl

theorem trim_append_of_isBlank (h : isBlank c = true) (text : List Char) :
    trim (text ++ [c]) = trim text := by
  unfold trim trimStart
  rw [List.dropWhile_append]
  split
  · rename_i hempty
    rw [List.isEmpty_iff.mp hempty, List.dropWhile_cons_of_pos h]
    rfl
  · simp [trimEnd, h]

theorem exists_trimStart (text : List Char) :
    ∃ blanks, (∀ c ∈ blanks, isBlank c = true) ∧ text = blanks ++ trimStart text :=
  ⟨text.takeWhile isBlank, List.all_eq_true.mp List.all_takeWhile,
    List.takeWhile_append_dropWhile.symm⟩

theorem exists_trimEnd (text : List Char) :
    ∃ blanks, (∀ c ∈ blanks, isBlank c = true) ∧ text = trimEnd text ++ blanks := by
  obtain ⟨blanks, hblanks, htext⟩ := exists_trimStart text.reverse
  refine ⟨blanks.reverse, ?_, ?_⟩
  · intro c hc
    exact hblanks c (List.mem_reverse.mp hc)
  · rw [← List.reverse_inj, htext]
    simp [trimEnd, trimStart]

theorem exists_trim (text : List Char) : ∃ front back,
    (∀ c ∈ front, isBlank c = true) ∧ (∀ c ∈ back, isBlank c = true) ∧
      text = front ++ (trim text ++ back) := by
  obtain ⟨front, hfront, hstart⟩ := exists_trimStart text
  obtain ⟨back, hback, hend⟩ := exists_trimEnd (trimStart text)
  exact ⟨front, back, hfront, hback, by rw [trim, ← hend, ← hstart]⟩

theorem isBlank_head?_dropWhile (text : List Char)
    (h : (text.dropWhile isBlank).head? = some c) : isBlank c = false := by
  have hhead := List.head?_dropWhile_not isBlank text
  rwa [h] at hhead

theorem startsSolid_trim (h : trim text ≠ []) : StartsSolid (trim text) := by
  obtain ⟨back, _, htext⟩ := exists_trimEnd (trimStart text)
  obtain ⟨c, rest, htrim⟩ := List.exists_cons_of_ne_nil h
  refine ⟨c, by rw [htrim]; rfl, isBlank_head?_dropWhile text ?_⟩
  rw [← trimStart, htext, ← trim, htrim]
  rfl

theorem endsSolid_trim (h : trim text ≠ []) : EndsSolid (trim text) := by
  obtain ⟨c, hlast⟩ := Option.isSome_iff_exists.mp (List.getLast?_isSome.mpr h)
  refine ⟨c, hlast, isBlank_head?_dropWhile (trimStart text).reverse ?_⟩
  rwa [trim, trimEnd, List.getLast?_reverse] at hlast

/-- The text is made of whole lines: it is empty or ends with a line feed. -/
def Ended (text : List Char) : Prop :=
  ∀ c, text.getLast? = some c → c = '\n'

theorem Ended.tail (h : Ended (c :: text)) : Ended text := by
  intro last hlast
  apply h last
  rw [List.getLast?_cons, hlast]
  rfl

theorem Ended.ne_nil (h : Ended (c :: text)) (hc : c ≠ '\n') : text ≠ [] := by
  rintro rfl
  exact hc (h c rfl)

theorem consFirst_ne_nil (c : Char) (found : List (List Char)) : consFirst c found ≠ [] := by
  cases found <;> simp [consFirst]

theorem consFirst_append (h : found ≠ []) (more : List (List Char)) :
    consFirst c (found ++ more) = consFirst c found ++ more := by
  cases found with
  | nil => exact absurd rfl h
  | cons first rest => rfl

theorem length_consFirst (h : found ≠ []) : (consFirst c found).length = found.length := by
  cases found with
  | nil => exact absurd rfl h
  | cons first rest => rfl

theorem lines_cons (hfeed : c ≠ '\n') (hreturn : c = '\r' → text.head? ≠ some '\n') :
    lines (c :: text) = consFirst c (lines text) := by
  apply lines.eq_4
  · exact hfeed
  · rintro rest rfl rfl
    exact hreturn rfl rfl

theorem lines_ne_nil (h : text ≠ []) : lines text ≠ [] := by
  fun_cases lines text with
  | case1 => exact absurd rfl h
  | case2 | case3 => simp
  | case4 => exact consFirst_ne_nil _ _

theorem lines_append (h : Ended text) (more : List Char) :
    lines (text ++ more) = lines text ++ lines more := by
  fun_induction lines text with
  | case1 => rfl
  | case2 rest ih => simp only [List.cons_append, lines, ih h.tail]
  | case3 rest ih => simp only [List.cons_append, lines, ih h.tail.tail]
  | case4 c rest hfeed hreturn ih =>
    have hrest := h.ne_nil hfeed
    rw [List.cons_append, lines_cons hfeed, ih h.tail, consFirst_append (lines_ne_nil hrest)]
    rintro rfl hhead
    cases rest with
    | nil => exact hrest rfl
    | cons d rest => exact hreturn rest rfl (by simpa using hhead)

/-- A text of whole lines has as many lines as line feeds. -/
theorem length_lines (h : Ended text) : (lines text).length = text.count '\n' := by
  fun_induction lines text with
  | case1 => rfl
  | case2 rest ih => simp [ih h.tail]
  | case3 rest ih => simp [ih h.tail.tail]
  | case4 c rest hfeed hreturn ih =>
    rw [length_consFirst (lines_ne_nil (h.ne_nil hfeed)), ih h.tail, List.count_cons_of_ne hfeed]

theorem not_mem_of_mem_lines (h : line ∈ lines text) : '\n' ∉ line := by
  fun_induction lines text generalizing line with
  | case1 => cases h
  | case2 rest ih | case3 rest ih =>
    rcases List.mem_cons.mp h with rfl | h
    · exact List.not_mem_nil
    · exact ih h
  | case4 c rest hfeed hreturn ih =>
    cases hlines : lines rest with
    | nil =>
      rw [hlines] at h
      rw [List.mem_singleton.mp h, List.mem_singleton]
      exact Ne.symm hfeed
    | cons first others =>
      rw [hlines] at h ih
      rcases List.mem_cons.mp h with rfl | h
      · exact List.not_mem_cons_of_ne_of_not_mem (Ne.symm hfeed) (ih List.mem_cons_self)
      · exact ih (List.mem_cons_of_mem _ h)

/-- The text of these lines, each of which ends with a line feed. -/
def unlines (lines : List (List Char)) : List Char :=
  lines.flatMap (· ++ ['\n'])

@[simp] theorem unlines_append (first second : List (List Char)) :
    unlines (first ++ second) = unlines first ++ unlines second :=
  List.flatMap_append

theorem dropReturn_cons (h : text ≠ []) : dropReturn (c :: text) = c :: dropReturn text := by
  obtain ⟨d, rest, rfl⟩ := List.exists_cons_of_ne_nil h
  unfold dropReturn
  rw [List.getLast?_cons_cons]
  split
  · rfl
  · rfl

/-- A line that has its end loses one carriage return in front of it. -/
theorem lines_append_feed (hfeed : '\n' ∉ line) : lines (line ++ ['\n']) = [dropReturn line] := by
  induction line with
  | nil => rfl
  | cons c line ih =>
    obtain ⟨hc, hline⟩ := not_or.mp (mt List.mem_cons.mpr hfeed)
    by_cases hempty : line = []
    · subst hempty
      by_cases hreturn : c = '\r'
      · subst hreturn
        rfl
      · rw [List.cons_append, lines_cons (Ne.symm hc) (fun h => absurd h hreturn)]
        simp [lines, consFirst, dropReturn, hreturn]
    · obtain ⟨d, rest, rfl⟩ := List.exists_cons_of_ne_nil hempty
      have hd : (d :: rest ++ ['\n']).head? ≠ some '\n' := by
        intro hhead
        cases hhead
        exact hline List.mem_cons_self
      rw [List.cons_append, lines_cons (Ne.symm hc) fun _ => hd, ih hline, dropReturn_cons hempty]
      rfl

/-- The last line may lack its end. -/
theorem lines_unended (hfeed : '\n' ∉ line) (hline : line ≠ []) : lines line = [line] := by
  induction line with
  | nil => exact absurd rfl hline
  | cons c line ih =>
    obtain ⟨hc, hrest⟩ := not_or.mp (mt List.mem_cons.mpr hfeed)
    have hhead : line.head? ≠ some '\n' := fun h => hrest (List.mem_of_mem_head? h)
    rw [lines_cons (Ne.symm hc) fun _ => hhead]
    by_cases hempty : line = []
    · subst hempty
      rfl
    · rw [ih hrest hempty]
      rfl

theorem lines_singleton (hfeed : '\n' ∉ line) (hreturn : line.getLast? ≠ some '\r') :
    lines (line ++ ['\n']) = [line] := by
  rw [lines_append_feed hfeed, dropReturn, if_neg hreturn]

theorem ended_append_feed (line : List Char) : Ended (line ++ ['\n']) := by
  intro c hc
  simpa using hc.symm

theorem lines_unlines (h : ∀ line ∈ found, '\n' ∉ line ∧ line.getLast? ≠ some '\r') :
    lines (unlines found) = found := by
  induction found with
  | nil => rfl
  | cons line rest ih =>
    obtain ⟨⟨hfeed, hreturn⟩, hrest⟩ := List.forall_mem_cons.mp h
    have hunlines : unlines (line :: rest) = (line ++ ['\n']) ++ unlines rest := rfl
    rw [hunlines, lines_append (ended_append_feed line), lines_singleton hfeed hreturn, ih hrest]
    rfl

end RegisterMachine.Text
