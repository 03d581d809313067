import RegisterMachine.Proofs.Listing
import RegisterMachine.Table

/-!
What a table prints. Every row takes a line of its own, which begins with a bar, and every rule
begins with a corner or a tee. So the rows can be counted in the printed lines, as long as no cell
breaks its line.
-/

namespace RegisterMachine

open Text (Lacks lacks_append)

namespace Text

variable {c : Char} {between line : String} {found texts : List String}

theorem lacks_intercalate (hbetween : Lacks c between) (h : ∀ text ∈ texts, Lacks c text) :
    Lacks c (between.intercalate texts) := by
  unfold Lacks
  rw [String.toList_intercalate]
  induction texts with
  | nil => simp
  | cons text texts ih =>
    obtain ⟨htext, htexts⟩ := List.forall_mem_cons.mp h
    cases texts with
    | nil => rwa [List.map_cons, List.map_nil, List.intercalate_singleton]
    | cons next rest =>
      rw [List.map_cons, List.map_cons, List.intercalate_cons_cons]
      simp only [List.mem_append, not_or]
      exact ⟨⟨htext, hbetween⟩, ih htexts⟩

theorem toList_intercalate_feed (h : found ≠ []) :
    ("\n".intercalate found ++ "\n").toList = unlines (found.map String.toList) := by
  rw [String.toList_append, String.toList_intercalate]
  induction found with
  | nil => exact absurd rfl h
  | cons line found ih =>
    cases found with
    | nil => simp [unlines]
    | cons next rest =>
      have hrest := ih (List.cons_ne_nil next rest)
      rw [List.map_cons] at hrest ⊢
      rw [List.map_cons, List.intercalate_cons_cons, List.append_assoc, hrest]
      simp [unlines]

/-- Whether a row of a table stands in the line. -/
def isRow (line : List Char) : Bool :=
  line.head? == some '│'

theorem isRow_append {first : String} (h : first.toList ≠ []) (second : String) :
    isRow (first ++ second).toList = isRow first.toList := by
  obtain ⟨c, rest, hfirst⟩ := List.exists_cons_of_ne_nil h
  simp [isRow, hfirst]

/-- The line is read back as it was printed: it holds no line feed, and does not end in a carriage
return. -/
structure Whole (line : String) : Prop where
  oneLine : Lacks '\n' line
  ending : line.toList.getLast? ≠ some '\r'

theorem whole_of_last (h : Lacks '\n' line) (hlast : line.toList.getLast? = some c)
    (hc : c ≠ '\r') : Whole line := by
  refine ⟨h, ?_⟩
  rw [hlast]
  intro heq
  exact hc (Option.some.inj heq)

theorem lines_unlines_of_whole (h : ∀ line ∈ found, Whole line) :
    lines (unlines (found.map String.toList)) = found.map String.toList := by
  apply lines_unlines
  intro line hline
  obtain ⟨printed, hprinted, rfl⟩ := List.mem_map.mp hline
  exact ⟨(h printed hprinted).oneLine, (h printed hprinted).ending⟩

end Text

namespace Table

open Text (isRow Whole)

variable {widths : List Nat} {row : List String} {rows : List (List String)}

@[simp] theorem isRow_rowLine (widths : List Nat) (row : List String) :
    isRow (rowLine widths row).toList = true := by
  rw [rowLine, String.append_assoc, Text.isRow_append (by decide)]
  decide

theorem isRow_rule {left : String} (hne : left.toList ≠ []) (h : isRow left.toList = false)
    (fill : Char) (cross right : String) (widths : List Nat) :
    isRow (rule left fill cross right widths).toList = false := by
  rwa [rule, String.append_assoc, Text.isRow_append hne]

theorem countP_bodyLines (widths : List Nat) (rows : List (List String)) :
    ((bodyLines widths rows).map String.toList).countP isRow = rows.length := by
  fun_induction bodyLines widths rows with
  | case1 => rfl
  | case2 row => simp [isRow_rowLine]
  | case3 row rest hrest ih =>
    have hrule : isRow (rule "├" '╌' "┼" "┤" widths).toList = false :=
      isRow_rule (by decide) (by decide) _ _ _ _
    simp only [List.map_cons, List.countP_cons, isRow_rowLine, hrule, ih, List.length_cons,
      Bool.false_eq_true, ite_false, ite_true, Nat.add_zero]

@[simp] theorem countP_lines (table : Table) :
    (table.lines.map String.toList).countP isRow = table.rows.length + 1 := by
  have htop : isRow (rule "┌" '─' "┬" "┐" table.widths).toList = false :=
    isRow_rule (by decide) (by decide) _ _ _ _
  have hmiddle : isRow (rule "╞" '═' "╪" "╡" table.widths).toList = false :=
    isRow_rule (by decide) (by decide) _ _ _ _
  have hbottom : isRow (rule "└" '─' "┴" "┘" table.widths).toList = false :=
    isRow_rule (by decide) (by decide) _ _ _ _
  simp only [lines, List.map_append, List.countP_append, countP_bodyLines, List.map_cons,
    List.map_nil, List.countP_cons, List.countP_nil, isRow_rowLine, htop, hmiddle, hbottom,
    Bool.false_eq_true, ite_false, ite_true]
  omega

theorem lacks_feed_cells (widths : List Nat) (h : ∀ cell ∈ row, Lacks '\n' cell) :
    ∀ cell ∈ cells widths row, Lacks '\n' cell := by
  have hblank : ∀ count, Lacks '\n' (Text.repeated count ' ') := Text.lacks_repeated (by decide)
  fun_induction cells widths row with
  | case1 => simp
  | case2 width widths ih => exact List.forall_mem_cons.mpr ⟨hblank _, ih h⟩
  | case3 width widths cell rest ih =>
    obtain ⟨hcell, hrest⟩ := List.forall_mem_cons.mp h
    refine List.forall_mem_cons.mpr ⟨?_, ih hrest⟩
    simp only [lacks_append]
    exact ⟨⟨by decide, hcell⟩, hblank _⟩

theorem whole_rowLine (widths : List Nat) (h : ∀ cell ∈ row, Lacks '\n' cell) :
    Whole (rowLine widths row) := by
  have hcells : Lacks '\n' ("┆".intercalate (cells widths row)) :=
    Text.lacks_intercalate (by decide) (lacks_feed_cells widths h)
  apply Text.whole_of_last (c := '│')
  · simp only [rowLine, lacks_append]
    exact ⟨⟨by decide, hcells⟩, by decide⟩
  · exact Text.getLast?_append_of_some rfl
  · decide

theorem whole_rule {left cross right : String} {fill last : Char} (hleft : Lacks '\n' left)
    (hfill : '\n' ≠ fill) (hcross : Lacks '\n' cross) (hright : Whole right)
    (hlast : right.toList.getLast? = some last) (widths : List Nat) :
    Whole (rule left fill cross right widths) := by
  have hmiddle : Lacks '\n'
      (cross.intercalate (widths.map fun width => Text.repeated (width + 2) fill)) := by
    apply Text.lacks_intercalate hcross
    intro text htext
    obtain ⟨width, _, rfl⟩ := List.mem_map.mp htext
    exact Text.lacks_repeated hfill _
  refine ⟨?_, ?_⟩
  · simp only [rule, lacks_append]
    exact ⟨⟨hleft, hmiddle⟩, hright.oneLine⟩
  · rw [rule, Text.getLast?_append_of_some hlast, ← hlast]
    exact hright.ending

theorem whole_bodyLines (widths : List Nat) (h : ∀ row ∈ rows, ∀ cell ∈ row, Lacks '\n' cell) :
    ∀ line ∈ bodyLines widths rows, Whole line := by
  fun_induction bodyLines widths rows with
  | case1 => simp
  | case2 row =>
    obtain ⟨hrow, _⟩ := List.forall_mem_cons.mp h
    simpa using whole_rowLine widths hrow
  | case3 row rest hrest ih =>
    obtain ⟨hrow, hrows⟩ := List.forall_mem_cons.mp h
    have hrule : Whole (rule "├" '╌' "┼" "┤" widths) :=
      whole_rule (by decide) (by decide) (by decide) ⟨by decide, by decide⟩ rfl widths
    simp only [List.forall_mem_cons]
    exact ⟨whole_rowLine widths hrow, hrule, ih hrows⟩

theorem whole_lines {table : Table} (hheader : ∀ cell ∈ table.header, Lacks '\n' cell)
    (hrows : ∀ row ∈ table.rows, ∀ cell ∈ row, Lacks '\n' cell) :
    ∀ line ∈ table.lines, Whole line := by
  have htop : Whole (rule "┌" '─' "┬" "┐" table.widths) :=
    whole_rule (by decide) (by decide) (by decide) ⟨by decide, by decide⟩ rfl _
  have hmiddle : Whole (rule "╞" '═' "╪" "╡" table.widths) :=
    whole_rule (by decide) (by decide) (by decide) ⟨by decide, by decide⟩ rfl _
  have hbottom : Whole (rule "└" '─' "┴" "┘" table.widths) :=
    whole_rule (by decide) (by decide) (by decide) ⟨by decide, by decide⟩ rfl _
  have hbody := whole_bodyLines table.widths hrows
  intro line hline
  simp only [lines, List.mem_append, List.mem_cons, List.not_mem_nil, or_false] at hline
  rcases hline with ((rfl | rfl | rfl) | hline) | rfl
  · exact htop
  · exact whole_rowLine table.widths hheader
  · exact hmiddle
  · exact hbody line hline
  · exact hbottom

end Table

end RegisterMachine
