-- SUMMARY: What a joined line tells of the values it was joined from.
import Fixture.Line

/-!
# Pieces of a line

A line gives back the texts of its values when there are values at all and no
text holds a comma. Then a line that goes on behind a comma is a line of the same
values and more. Lines of parts are joined to the line of the whole.
-/

namespace Fixture.Line

variable {α : Type} [Display α]

/-- The characters of numerals, and the comma between them. -/
def alphabet : List Char := "0123456789abcdef-,".toList

theorem toList_join (values : List α) :
    (join values).toList = [','].intercalate (values.map fun v => (display v).toList) := by
  unfold join
  rw [String.toList_intercalate, List.map_map]
  rfl

/-- A line has nothing but its values and commas. -/
theorem mem_toList_join {values : List α} {c : Char} (h : c ∈ (join values).toList) :
    c = ',' ∨ ∃ v ∈ values, c ∈ (display v).toList := by
  induction values with
  | nil => simp at h
  | cons v values ih =>
    cases values with
    | nil => exact .inr ⟨v, List.mem_cons_self, by simpa using h⟩
    | cons w values =>
      rw [join_cons_cons, String.toList_append, String.toList_append, List.mem_append,
        List.mem_append] at h
      rcases h with (hvalue | hcomma) | hrest
      · exact .inr ⟨v, List.mem_cons_self, hvalue⟩
      · exact .inl (List.mem_singleton.mp hcomma)
      · refine (ih hrest).imp_right ?_
        rintro ⟨u, hu, hc⟩
        exact ⟨u, List.mem_cons_of_mem v hu, hc⟩

theorem splitOn_join {values : List α} (hne : values ≠ [])
    (hcomma : ∀ v ∈ values, ',' ∉ (display v).toList) :
    (join values).toList.splitOn ',' = values.map fun v => (display v).toList := by
  have htexts : ∀ cs ∈ values.map (fun v => (display v).toList), ',' ∉ cs := by
    intro cs hcs
    obtain ⟨v, hv, rfl⟩ := List.mem_map.mp hcs
    exact hcomma v hv
  rw [toList_join, List.splitOn_intercalate ',' htexts (by simpa using hne)]

/-- The empty list is excluded: its line has one piece, the empty text. -/
theorem pieces_join {values : List α} (hne : values ≠ [])
    (hcomma : ∀ v ∈ values, ',' ∉ (display v).toList) :
    pieces (join values) = values.map display := by
  unfold pieces
  rw [splitOn_join hne hcomma, List.map_map]
  exact List.map_congr_left fun v _ => String.ofList_toList

/-! ## Lines in parts -/

theorem join_cons {v : α} {values : List α} (hne : values ≠ []) :
    join (v :: values) = display v ++ "," ++ join values := by
  obtain ⟨w, rest, rfl⟩ := List.exists_cons_of_ne_nil hne
  exact join_cons_cons v w rest

/-- The values in front each stand with a comma behind them. -/
theorem join_append {front back : List α} (hne : back ≠ []) :
    join (front ++ back) = String.join (front.map fun v => display v ++ ",") ++ join back := by
  induction front with
  | nil => simp
  | cons v front ih =>
    have happend : front ++ back ≠ [] := List.append_ne_nil_of_right_ne_nil front hne
    rw [List.cons_append, join_cons happend, ih, List.map_cons, String.join_cons]
    simp only [String.append_assoc]

/-- The values behind the first each stand with a comma in front of them. -/
theorem join_cons_eq (v : α) (values : List α) :
    join (v :: values) = display v ++ String.join (values.map fun w => "," ++ display w) := by
  induction values generalizing v with
  | nil => simp
  | cons w values ih =>
    rw [join_cons_cons, ih, List.map_cons, String.join_cons]
    simp only [String.append_assoc]

/-- One comma stands between two parts that both have values. -/
theorem join_append_of_ne_nil {front back : List α} (hfront : front ≠ []) (hback : back ≠ []) :
    join (front ++ back) = join front ++ "," ++ join back := by
  unfold join
  rw [List.map_append, String.intercalate_append_of_ne_nil (by simpa using hfront)
    (by simpa using hback)]

/-- The empty line has one piece. -/
theorem ne_empty_of_length_pieces {line : String} (h : 1 < (pieces line).length) : line ≠ "" := by
  rintro rfl
  exact absurd h (by decide)

/-- Only the empty list and a single empty text leave nothing to see: two values
    have a comma between them. -/
theorem join_eq_empty_iff {values : List α} :
    join values = "" ↔ values.map display = [] ∨ values.map display = [""] := by
  cases values with
  | nil => simp
  | cons v values =>
    cases values with
    | nil => simp
    | cons w values => simp

theorem join_eq_empty_iff_eq_nil {values : List α} (htexts : ∀ v ∈ values, display v ≠ "") :
    join values = "" ↔ values = [] := by
  cases values with
  | nil => simp
  | cons v values => simp [join_eq_empty_iff, htexts v List.mem_cons_self]

/-- How many values a line has. The empty line has none, but it has one piece. -/
def size (line : String) : Nat := if line = "" then 0 else (pieces line).length

theorem size_join {values : List α} (htexts : ∀ v ∈ values, display v ≠ "")
    (hcomma : ∀ v ∈ values, ',' ∉ (display v).toList) : size (join values) = values.length := by
  unfold size
  split
  case isTrue hempty =>
    rw [(join_eq_empty_iff_eq_nil htexts).mp hempty, List.length_nil]
  case isFalse hline =>
    have hne : values ≠ [] := fun hnil => hline ((join_eq_empty_iff_eq_nil htexts).mpr hnil)
    rw [pieces_join hne hcomma, List.length_map]

theorem join_map_join {parts : List (List α)} (hne : ∀ part ∈ parts, part ≠ []) :
    join (parts.map join) = join parts.flatten := by
  induction parts with
  | nil => rfl
  | cons part parts ih =>
    obtain ⟨hpart, hparts⟩ := List.forall_mem_cons.mp hne
    by_cases hlast : parts = []
    · rw [hlast, List.map_singleton, join_singleton, List.flatten_singleton]
      rfl
    · have hback : parts.flatten ≠ [] := by
        obtain ⟨next, hnext⟩ := List.exists_mem_of_ne_nil parts hlast
        exact List.flatten_ne_nil_iff.mpr ⟨next, hnext, hparts next hnext⟩
      rw [List.map_cons, join_cons (by simpa using hlast), ih hparts, List.flatten_cons,
        join_append_of_ne_nil hpart hback]
      rfl

/-- The lines of parts, without those that are empty, make up the line of all
    values. A value with an empty text would be lost when it is alone in its part. -/
theorem join_filter_join {parts : List (List α)}
    (htexts : ∀ part ∈ parts, ∀ v ∈ part, display v ≠ "") :
    join ((parts.map join).filter (· ≠ "")) = join parts.flatten := by
  have hempty : ∀ part ∈ parts, join part = "" ↔ part = [] := fun part hpart =>
    join_eq_empty_iff_eq_nil (htexts part hpart)
  have hfilter : (parts.map join).filter (· ≠ "") = (parts.filter (· ≠ [])).map join := by
    rw [List.filter_map]
    congr 1
    exact List.filter_congr fun part hpart => by simpa using hempty part hpart
  rw [hfilter, join_map_join fun part hpart => by simpa using (List.mem_filter.mp hpart).2,
    List.flatten_filter_ne_nil]

/-! ## One value after the other -/

/-- Put the value at an index behind those before it. The first one gets no comma. -/
def push (line : String) (entry : α × Nat) : String :=
  (if 0 < entry.2 then line ++ "," else line) ++ display entry.1

theorem foldl_push (values : List α) (line : String) {i : Nat} (hi : 0 < i) :
    (values.zipIdx i).foldl push line =
      line ++ String.join (values.map fun v => "," ++ display v) := by
  induction values generalizing line i with
  | nil => simp
  | cons v values ih =>
    rw [List.zipIdx_cons, List.foldl_cons, ih _ (Nat.succ_pos i), push, if_pos hi, List.map_cons,
      String.join_cons]
    simp only [String.append_assoc]

/-- A line can be written from the front, in one pass over the values. -/
theorem join_eq_foldl (values : List α) : join values = values.zipIdx.foldl push "" := by
  cases values with
  | nil => simp
  | cons v values =>
    rw [List.zipIdx_cons, List.foldl_cons, foldl_push _ _ (Nat.succ_pos 0), join_cons_eq]
    simp [push]

/-! ## Cutting at commas -/

theorem pieces_ne_nil (line : String) : pieces line ≠ [] := by
  unfold pieces
  exact fun h => List.splitOn_ne_nil ',' line.toList (List.map_eq_nil_iff.mp h)

theorem pieces_append_comma (front back : String) :
    pieces (front ++ "," ++ back) = pieces front ++ pieces back := by
  have htext : (front ++ "," ++ back).toList = front.toList ++ ',' :: back.toList := by
    rw [String.toList_append, String.toList_append, List.append_assoc]
    rfl
  unfold pieces
  rw [htext, List.splitOn_append_cons_self, List.map_append]

theorem comma_not_mem_of_mem_splitOn {text piece : List Char} (h : piece ∈ text.splitOn ',') :
    ',' ∉ piece := by
  induction text generalizing piece with
  | nil =>
    rw [List.splitOn_nil, List.mem_singleton] at h
    exact h ▸ List.not_mem_nil
  | cons c text ih =>
    rw [List.splitOn_cons_eq_if_modifyHead] at h
    by_cases hcomma : c = ','
    · rw [if_pos (beq_iff_eq.mpr hcomma)] at h
      rcases List.mem_cons.mp h with rfl | h
      · exact List.not_mem_nil
      · exact ih h
    · rw [if_neg (mt beq_iff_eq.mp hcomma)] at h
      obtain ⟨first, rest, hsplit⟩ := List.exists_cons_of_ne_nil (List.splitOn_ne_nil ',' text)
      rw [hsplit, List.modifyHead_cons] at h
      rw [hsplit] at ih
      rcases List.mem_cons.mp h with rfl | h
      · simp [Ne.symm hcomma, ih List.mem_cons_self]
      · exact ih (List.mem_cons_of_mem first h)

theorem comma_not_mem_of_mem_pieces {line piece : String} (h : piece ∈ pieces line) :
    ',' ∉ piece.toList := by
  obtain ⟨cs, hcs, rfl⟩ := List.mem_map.mp h
  rw [String.toList_ofList]
  exact comma_not_mem_of_mem_splitOn hcs

/-! ## What a line tells -/

theorem pieces_join_iff {values : List α} :
    pieces (join values) = values.map display ↔
      values ≠ [] ∧ ∀ v ∈ values, ',' ∉ (display v).toList := by
  constructor
  · intro h
    refine ⟨?_, ?_⟩
    · rintro rfl
      exact pieces_ne_nil _ h
    · intro v hv
      exact comma_not_mem_of_mem_pieces (h ▸ List.mem_map_of_mem hv)
  · rintro ⟨hne, hcomma⟩
    exact pieces_join hne hcomma

section
variable {values others : List α} (hcomma : ∀ v ∈ values, ',' ∉ (display v).toList)
  (hcomma' : ∀ v ∈ others, ',' ∉ (display v).toList)
include hcomma hcomma'

/-- Lists that are not empty are told apart by their lines. -/
theorem join_eq_join_iff (hne : values ≠ []) (hne' : others ≠ []) :
    join values = join others ↔ values.map display = others.map display := by
  constructor
  · intro h
    rw [← pieces_join hne hcomma, ← pieces_join hne' hcomma', h]
  · intro h
    unfold join
    rw [h]

/-- A line and a comma begin another line when the other list begins with the
    same texts and has more of them. -/
theorem join_comma_prefix_iff (hne : values ≠ []) (hne' : others ≠ []) :
    (join values ++ ",").toList <+: (join others).toList ↔
      values.map display <+: others.map display ∧ values.length < others.length := by
  constructor
  · rintro ⟨rest, hrest⟩
    have hline : join others = join values ++ "," ++ String.ofList rest := by
      rw [← String.toList_inj, String.toList_append, String.toList_ofList, hrest]
    have hpieces := congrArg pieces hline
    rw [pieces_append_comma, pieces_join hne hcomma, pieces_join hne' hcomma'] at hpieces
    have hlength := congrArg List.length hpieces
    have hpos := List.length_pos_iff.mpr (pieces_ne_nil (String.ofList rest))
    simp only [List.length_append, List.length_map] at hlength
    exact ⟨⟨_, hpieces.symm⟩, by omega⟩
  · rintro ⟨⟨rest, hrest⟩, hlt⟩
    have hback : rest ≠ [] := by
      rintro rfl
      have hlength := congrArg List.length hrest
      simp only [List.append_nil, List.length_map] at hlength
      omega
    have hline : join others = join values ++ "," ++ ",".intercalate rest := by
      unfold join
      rw [← hrest, String.intercalate_append_of_ne_nil (by simpa using hne) hback]
    rw [hline]
    exact ⟨_, String.toList_append.symm⟩

end

/-- The empty list and the list of one empty text are the only lists of texts
    without commas that share their line. -/
theorem join_texts_eq_iff {texts others : List String} (hcomma : ∀ t ∈ texts, ',' ∉ t.toList)
    (hcomma' : ∀ t ∈ others, ',' ∉ t.toList) :
    join texts = join others ↔
      texts = others ∨ (texts = [] ∨ texts = [""]) ∧ (others = [] ∨ others = [""]) := by
  have hdisplay (list : List String) : list.map display = list := List.map_id list
  have hempty (list : List String) : join list = "" ↔ list = [] ∨ list = [""] := by
    rw [join_eq_empty_iff, hdisplay]
  constructor
  · intro h
    by_cases hnil : join texts = ""
    · exact .inr ⟨(hempty texts).mp hnil, (hempty others).mp (h ▸ hnil)⟩
    · have hne : texts ≠ [] := fun heq => hnil ((hempty texts).mpr (.inl heq))
      have hne' : others ≠ [] := fun heq => hnil (h.trans ((hempty others).mpr (.inl heq)))
      have htexts := (join_eq_join_iff hcomma hcomma' hne hne').mp h
      rw [hdisplay, hdisplay] at htexts
      exact .inl htexts
  · rintro (rfl | ⟨h, h'⟩)
    · rfl
    · rw [(hempty texts).mpr h, (hempty others).mpr h']

/-- A line is written from the front, with a comma before every value but the
    first. It gives the texts back when there are any and none has a comma. The
    lines of two parts stand with a comma between them, and different lists have
    the same line only when both lines are empty. -/
theorem join_laws (α : Type) [Display α] :
    (∀ values : List α, join values = values.zipIdx.foldl push "") ∧
    (∀ values : List α, pieces (join values) = values.map display ↔
      values ≠ [] ∧ ∀ v ∈ values, ',' ∉ (display v).toList) ∧
    (∀ front back : List α, front ≠ [] → back ≠ [] →
      join (front ++ back) = join front ++ "," ++ join back) ∧
    (∀ values : List α, join (values ++ []) = join values ∧ join ([] ++ values) = join values) ∧
    ∀ texts others : List String,
      (∀ t ∈ texts, ',' ∉ t.toList) → (∀ t ∈ others, ',' ∉ t.toList) →
      (join texts = join others ↔
        texts = others ∨ (texts = [] ∨ texts = [""]) ∧ (others = [] ∨ others = [""])) := by
  refine ⟨?_, ?_, ?_, ?_, ?_⟩
  · intro values
    exact join_eq_foldl values
  · intro values
    exact pieces_join_iff
  · intro front back hfront hback
    exact join_append_of_ne_nil hfront hback
  · intro values
    rw [List.append_nil, List.nil_append]
    exact ⟨rfl, rfl⟩
  · intro texts others hcomma hcomma'
    exact join_texts_eq_iff hcomma hcomma'

end Fixture.Line
