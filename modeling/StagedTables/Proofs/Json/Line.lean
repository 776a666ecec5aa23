import StagedTables.Json.Writer

/-! # Lines of JSON

The line of a value is written in front of what follows it and does not depend on that, nor, on one
line, on the level.  So the line of an object shows the lines of the values that it holds. -/
set_option autoImplicit false
namespace StagedTables.Json

theorem textOnto_eq (s : String) (tail : List Char) :
    textOnto s tail = '"' :: (s.toList.flatMap escapeChar ++ '"' :: tail) := by
  have escaped (cs : List Char) : cs.foldr (fun c rest => escapeChar c ++ rest) ('"' :: tail) =
      cs.flatMap escapeChar ++ '"' :: tail := by
    induction cs with
    | nil => rfl
    | cons c rest ih => rw [List.foldr_cons, ih, List.flatMap_cons, List.append_assoc]
  rw [textOnto, escaped]

theorem textOnto_append (s : String) (front tail : List Char) :
    textOnto s (front ++ tail) = textOnto s front ++ tail := by
  simp [textOnto_eq]

theorem leafOnto_append (json : Json) (front tail : List Char) :
    leafOnto json (front ++ tail) = leafOnto json front ++ tail := by
  cases json with
  | text s => exact textOnto_append s front tail
  | _ => simp [leafOnto]

mutual

theorem onto_append (spacing : Spacing) (level : Nat) : ∀ (json : Json) (front tail : List Char),
    onto spacing level json (front ++ tail) = onto spacing level json front ++ tail
  | array [], front, tail => rfl
  | array (item :: rest), front, tail => by
    simp only [onto, ← List.cons_append, ← List.append_assoc]
    rw [itemsOnto_append spacing (level + 1) rest, onto_append spacing (level + 1) item]
    simp only [List.append_assoc, List.cons_append]
  | object [], front, tail => rfl
  | object ((name, value) :: rest), front, tail => by
    simp only [onto, ← List.cons_append, ← List.append_assoc]
    rw [membersOnto_append spacing (level + 1) rest, onto_append spacing (level + 1) value]
    simp only [← List.cons_append, textOnto_append]
    simp only [List.append_assoc, List.cons_append]
  | null, front, tail => leafOnto_append null front tail
  | boolean b, front, tail => leafOnto_append (boolean b) front tail
  | integer n, front, tail => leafOnto_append (integer n) front tail
  | number x, front, tail => leafOnto_append (number x) front tail
  | text s, front, tail => leafOnto_append (text s) front tail

theorem itemsOnto_append (spacing : Spacing) (level : Nat) :
    ∀ (items : List Json) (front tail : List Char),
      itemsOnto spacing level items (front ++ tail) = itemsOnto spacing level items front ++ tail
  | [], front, tail => rfl
  | item :: rest, front, tail => by
    simp only [itemsOnto]
    rw [itemsOnto_append spacing level rest, onto_append spacing level item, List.append_assoc]

theorem membersOnto_append (spacing : Spacing) (level : Nat) :
    ∀ (members : List (String × Json)) (front tail : List Char),
      membersOnto spacing level members (front ++ tail) =
        membersOnto spacing level members front ++ tail
  | [], front, tail => rfl
  | (name, value) :: rest, front, tail => by
    simp only [membersOnto]
    rw [membersOnto_append spacing level rest, onto_append spacing level value]
    simp only [← List.cons_append, textOnto_append, List.append_assoc]

end

mutual

theorem onto_level (level : Nat) : ∀ (json : Json) (tail : List Char),
    onto ⟨none⟩ level json tail = onto ⟨none⟩ 0 json tail
  | array [], tail => rfl
  | array (item :: rest), tail => by
    rw [onto, onto, onto_level (level + 1) item, itemsOnto_level (level + 1) rest,
      onto_level (0 + 1) item, itemsOnto_level (0 + 1) rest]
    rfl
  | object [], tail => rfl
  | object ((name, value) :: rest), tail => by
    rw [onto, onto, onto_level (level + 1) value, membersOnto_level (level + 1) rest,
      onto_level (0 + 1) value, membersOnto_level (0 + 1) rest]
    rfl
  | null, tail => rfl
  | boolean b, tail => rfl
  | integer n, tail => rfl
  | number x, tail => rfl
  | text s, tail => rfl

theorem itemsOnto_level (level : Nat) : ∀ (items : List Json) (tail : List Char),
    itemsOnto ⟨none⟩ level items tail = itemsOnto ⟨none⟩ 0 items tail
  | [], tail => rfl
  | item :: rest, tail => by
    rw [itemsOnto, itemsOnto, onto_level level item, itemsOnto_level level rest]
    rfl

theorem membersOnto_level (level : Nat) : ∀ (members : List (String × Json)) (tail : List Char),
    membersOnto ⟨none⟩ level members tail = membersOnto ⟨none⟩ 0 members tail
  | [], tail => rfl
  | (name, value) :: rest, tail => by
    rw [membersOnto, membersOnto, onto_level level value, membersOnto_level level rest]
    rfl

end

theorem onto_eq_append (spacing : Spacing) (level : Nat) (json : Json) (tail : List Char) :
    onto spacing level json tail = onto spacing level json [] ++ tail :=
  onto_append spacing level json [] tail

theorem membersOnto_cons (name : String) (value : Json) (members : List (String × Json))
    (tail : List Char) :
    membersOnto ⟨none⟩ 0 ((name, value) :: members) tail =
      (itemGap ⟨none⟩ 0 ++ textOnto name [':', ' ']) ++ value.line.toList ++
        membersOnto ⟨none⟩ 0 members tail := by
  rw [membersOnto, onto_eq_append, textOnto_eq, textOnto_eq, line, String.toList_ofList]
  simp

theorem line_object (name : String) (value : Json) (members : List (String × Json)) :
    (object ((name, value) :: members)).line.toList =
      ('\x7b' :: textOnto name [':', ' ']) ++ value.line.toList ++
        membersOnto ⟨none⟩ 0 members ['\x7d'] := by
  have unbroken (level : Nat) : lineStart ⟨none⟩ level = [] := rfl
  rw [line, line, String.toList_ofList, String.toList_ofList, onto, onto_level, membersOnto_level,
    unbroken, unbroken, List.nil_append, onto_eq_append, textOnto_eq, textOnto_eq]
  simp

/-- The line of a member stands between texts that do not depend on it. -/
theorem exists_frame_membersOnto (front : List (String × Json)) (name : String)
    (back : List (String × Json)) (tail : List Char) : ∃ before after : List Char, ∀ value : Json,
      membersOnto ⟨none⟩ 0 (front ++ (name, value) :: back) tail =
        before ++ value.line.toList ++ after := by
  induction front with
  | nil => exact ⟨_, _, fun value => membersOnto_cons name value back tail⟩
  | cons first rest ih =>
    obtain ⟨other, json⟩ := first
    obtain ⟨before, after, framed⟩ := ih
    refine ⟨itemGap ⟨none⟩ 0 ++ textOnto other [':', ' '] ++ json.line.toList ++ before, after, ?_⟩
    intro value
    rw [List.cons_append, membersOnto_cons, framed]
    simp

theorem exists_frame (front : List (String × Json)) (name : String)
    (back : List (String × Json)) : ∃ before after : List Char, ∀ value : Json,
      (object (front ++ (name, value) :: back)).line.toList =
        before ++ value.line.toList ++ after := by
  cases front with
  | nil => exact ⟨_, _, fun value => line_object name value back⟩
  | cons first rest =>
    obtain ⟨other, json⟩ := first
    obtain ⟨before, after, framed⟩ := exists_frame_membersOnto rest name back ['\x7d']
    refine ⟨'\x7b' :: textOnto other [':', ' '] ++ json.line.toList ++ before, after, ?_⟩
    intro value
    rw [List.cons_append, line_object, framed]
    simp

theorem infix_line {name : String} {value : Json} {members : List (String × Json)}
    (member : (name, value) ∈ members) : value.line.toList <:+: (object members).line.toList := by
  obtain ⟨front, back, rfl⟩ := List.append_of_mem member
  obtain ⟨before, after, framed⟩ := exists_frame front name back
  exact ⟨before, after, (framed value).symm⟩

theorem line_text (s : String) :
    (text s).line.toList = '"' :: (s.toList.flatMap escapeChar ++ ['"']) := by
  rw [line, String.toList_ofList]
  exact textOnto_eq s []

theorem infix_line_text (s : String) : s.toList.flatMap escapeChar <:+: (text s).line.toList := by
  rw [line_text]
  exact ⟨['"'], ['"'], by simp⟩

theorem line_ne_of_escaped_ne {s t : String}
    (different : s.toList.flatMap escapeChar ≠ t.toList.flatMap escapeChar)
    (front : List (String × Json)) (name : String) (back : List (String × Json)) :
    (object (front ++ (name, text s) :: back)).line ≠
      (object (front ++ (name, text t) :: back)).line := by
  intro same
  obtain ⟨before, after, framed⟩ := exists_frame front name back
  have lines := congrArg String.toList same
  rw [framed, framed, List.append_left_inj, List.append_right_inj, line_text, line_text] at lines
  exact different (List.append_cancel_right (List.cons.inj lines).2)

end StagedTables.Json
