import Filtergraph.Proofs.Overlay.Writing
import Filtergraph.Proofs.Text.Marks

/-!
# Decoding overlay graphs

The parts of an overlay graph are joined without any escape.  Still they can be told from the
text, as long as no part holds the character that ends it.  The file of the picture ends at the
first comma or bracket, a coordinate at the first colon, and the start of a gate that closes again
at the first comma; the end of such a gate can hold all characters.
-/

namespace Filtergraph

/-! ## Picture and scale -/

namespace Numeral

variable {first second : Numeral}

/-- Numerals with the same text are the same. -/
theorem eq_of_text (same : first.text = second.text) : first = second := by
  have sameValue := int_eq_of_toString same
  cases first
  cases second
  cases sameValue
  rfl

/-- A numeral is written with nothing but digits and a sign. -/
theorem freeOf_text
    {mark : Char}
    (noDigit : mark.isDigit = false)
    (noSign : mark ≠ '-')
    (numeral : Numeral) :
    FreeOf [mark] numeral.text :=
  freeOf_toString noDigit noSign numeral.value

end Numeral

namespace Scaling

variable {picture pictureToo rest restToo : String}

/-- What stands between the picture and the coordinates. -/
def link : String := " [watermark]; [in][watermark] overlay="

/-- A picture that is scaled ends at a comma. -/
theorem scaled_eq (picture rest : String) (width height : Numeral) :
    picture ++ (sides width height).clause ++ link ++ rest =
      picture ++ (",scale=" ++ (width.text ++ (":" ++ (height.text ++ (link ++ rest))))) := by
  simp only [clause, String.append_assoc]

/-- A picture that is not scaled ends before a bracket. -/
theorem unscaled_eq (picture rest : String) :
    picture ++ own.clause ++ link ++ rest =
      picture ++ " " ++ ("[watermark]" ++ ("; [in][watermark] overlay=" ++ rest)) := by
  have parts : link = " " ++ ("[watermark]" ++ "; [in][watermark] overlay=") := rfl
  simp only [clause, parts, String.append_assoc, String.append_empty]

theorem scaled_ne_unscaled
    (free : FreeOf [',', '['] picture)
    (freeToo : FreeOf [',', '['] pictureToo)
    (s t : String) :
    picture ++ (",scale=" ++ s) ≠ pictureToo ++ " " ++ ("[watermark]" ++ t) := by
  intro same
  have comma : BeginsWith [',', '['] (",scale=" ++ s) :=
    .append ⟨',', "scale=".toList, rfl, by decide⟩ s
  have bracket : BeginsWith [',', '['] ("[watermark]" ++ t) :=
    .append ⟨'[', "watermark]".toList, rfl, by decide⟩ t
  have tails := (eq_of_marks free (freeToo.append (by decide)) comma bracket same).2
  have chars := congrArg String.toList tails
  rw [String.toList_append, String.toList_append] at chars
  cases List.head_eq_of_cons_eq chars

/-- The sides can be told from the text that they stand in. -/
theorem scaled_inj
    {width height widthToo heightToo : Numeral}
    (free : FreeOf [',', '['] picture)
    (freeToo : FreeOf [',', '['] pictureToo)
    (same : picture ++ (sides width height).clause ++ link ++ rest =
      pictureToo ++ (sides widthToo heightToo).clause ++ link ++ restToo) :
    picture = pictureToo ∧ width = widthToo ∧ height = heightToo ∧ rest = restToo := by
  have comma (s : String) : BeginsWith [',', '['] (",scale=" ++ s) :=
    .append ⟨',', "scale=".toList, rfl, by decide⟩ s
  have colon (s : String) : BeginsWith [':'] (":" ++ s) :=
    .append ⟨':', [], rfl, by decide⟩ s
  have blank (s : String) : BeginsWith [' '] (link ++ s) :=
    .append ⟨' ', "[watermark]; [in][watermark] overlay=".toList, rfl, by decide⟩ s
  rw [scaled_eq, scaled_eq] at same
  obtain ⟨samePicture, same⟩ := eq_of_marks free freeToo (comma _) (comma _) same
  rw [String.append_right_inj] at same
  obtain ⟨sameWidth, same⟩ := eq_of_marks (width.freeOf_text (by decide) (by decide))
    (widthToo.freeOf_text (by decide) (by decide)) (colon _) (colon _) same
  rw [String.append_right_inj] at same
  obtain ⟨sameHeight, same⟩ := eq_of_marks (height.freeOf_text (by decide) (by decide))
    (heightToo.freeOf_text (by decide) (by decide)) (blank _) (blank _) same
  rw [String.append_right_inj] at same
  exact ⟨samePicture, Numeral.eq_of_text sameWidth, Numeral.eq_of_text sameHeight, same⟩

theorem unscaled_inj
    (free : FreeOf [',', '['] picture)
    (freeToo : FreeOf [',', '['] pictureToo)
    (same : picture ++ own.clause ++ link ++ rest = pictureToo ++ own.clause ++ link ++ restToo) :
    picture = pictureToo ∧ rest = restToo := by
  have bracket (s : String) : BeginsWith [',', '['] ("[watermark]" ++ s) :=
    .append ⟨'[', "watermark]".toList, rfl, by decide⟩ s
  rw [unscaled_eq, unscaled_eq] at same
  obtain ⟨samePicture, same⟩ := eq_of_marks (free.append (by decide)) (freeToo.append (by decide))
    (bracket _) (bracket _) same
  rw [String.append_right_inj, String.append_right_inj] at same
  exact ⟨(String.append_left_inj " ").mp samePicture, same⟩

/-- Picture and scaling can be told from the text that they stand in. -/
theorem clause_inj
    {scaling scalingToo : Scaling}
    (free : FreeOf [',', '['] picture)
    (freeToo : FreeOf [',', '['] pictureToo)
    (same : picture ++ scaling.clause ++ link ++ rest =
      pictureToo ++ scalingToo.clause ++ link ++ restToo) :
    picture = pictureToo ∧ scaling = scalingToo ∧ rest = restToo := by
  cases scaling with
  | own =>
      cases scalingToo with
      | own =>
          obtain ⟨samePicture, sameRest⟩ := unscaled_inj free freeToo same
          exact ⟨samePicture, rfl, sameRest⟩
      | sides widthToo heightToo =>
          rw [unscaled_eq, scaled_eq] at same
          exact absurd same.symm (scaled_ne_unscaled freeToo free _ _)
  | sides width height =>
      cases scalingToo with
      | own =>
          rw [unscaled_eq, scaled_eq] at same
          exact absurd same (scaled_ne_unscaled free freeToo _ _)
      | sides widthToo heightToo =>
          obtain ⟨samePicture, rfl, rfl, sameRest⟩ := scaled_inj free freeToo same
          exact ⟨samePicture, rfl, sameRest⟩

end Scaling

/-- The sides of a scaling. -/
def Scaling.sides? : Scaling -> Option (Int × Int)
  | .own => none
  | .sides width height => some (width.value, height.value)

/-- A size is scaled to its own sides. -/
theorem Size.sides_of_scaling
    {size : Option Size}
    {scaling : Scaling}
    (scaled : scaling? size = some scaling) :
    size.bind sides? = scaling.sides? := by
  rw [scaling?] at scaled
  cases asked : size.bind sides? with
  | none =>
      rw [asked] at scaled
      obtain rfl := Option.some.inj scaled
      rfl
  | some sides =>
      rw [asked] at scaled
      simp only [Option.bind_eq_bind, Option.bind_eq_some_iff, Option.pure_def,
        Option.some.injEq] at scaled
      obtain ⟨width, writtenWidth, height, writtenHeight, rfl⟩ := scaled
      rw [Scaling.sides?, Numeral.value_of_ofInt? writtenWidth,
        Numeral.value_of_ofInt? writtenHeight]

/-! ## Gate -/

namespace Gate

/-- The start of a gate that closes again holds no comma. -/
def Delimited : Gate -> Prop
  | .between start _ => FreeOf [','] start
  | _ => True

instance (gate : Gate) : Decidable gate.Delimited :=
  match gate with
  | .between start _ => inferInstanceAs (Decidable (FreeOf [','] start))
  | .always => isTrue trivial
  | .onward _ => isTrue trivial

/-- A gate can be told from its predicate. -/
theorem eq_of_predicate
    {gate gateToo : Gate}
    (delimited : gate.Delimited)
    (delimitedToo : gateToo.Delimited)
    (same : gate.predicate = gateToo.predicate) :
    gate = gateToo := by
  have heads := congrArg (fun s => s.toList.head?) same
  rw [head_predicate, head_predicate] at heads
  cases gate with
  | always => cases gateToo with
    | always => rfl
    | onward startToo => cases heads
    | between startToo finishToo => cases heads
  | onward start => cases gateToo with
    | always => cases heads
    | onward startToo =>
        rw [predicate, predicate, String.append_left_inj, String.append_right_inj] at same
        rw [same]
    | between startToo finishToo => cases heads
  | between start finish => cases gateToo with
    | always => cases heads
    | onward startToo => cases heads
    | between startToo finishToo =>
        have comma (s : String) : BeginsWith [','] ("," ++ s) := .append ⟨',', [], rfl, by decide⟩ s
        rw [predicate, predicate, String.append_left_inj, String.append_assoc,
          String.append_assoc, String.append_assoc, String.append_assoc,
          String.append_right_inj] at same
        obtain ⟨sameStart, sameEnd⟩ := eq_of_marks delimited delimitedToo (comma _) (comma _) same
        rw [String.append_right_inj] at sameEnd
        rw [sameStart, sameEnd]

/-- A clause that is there begins behind a blank, with a colon. -/
theorem append_clause
    {predicate : String}
    (present : predicate ≠ "")
    (y : String) :
    y ++ clause predicate = y ++ " " ++ (":enable='" ++ (predicate ++ "'")) := by
  have parts : " :enable='" = " " ++ ":enable='" := rfl
  rw [clause, if_neg present, parts]
  simp only [String.append_assoc]

/-- A text with a clause behind it is not free of colons. -/
theorem not_freeOf_clause
    {y predicate : String}
    (present : predicate ≠ "") :
    ¬ FreeOf [':'] (y ++ clause predicate) := by
  intro free
  apply free ':' _ List.mem_cons_self
  rw [append_clause present]
  simp [String.toList_append]

/-- A coordinate and the predicate behind it can be told from the text they stand in. -/
theorem clause_inj
    {y yToo predicate predicateToo : String}
    (free : FreeOf [':'] y)
    (freeToo : FreeOf [':'] yToo)
    (same : y ++ clause predicate = yToo ++ clause predicateToo) :
    y = yToo ∧ predicate = predicateToo := by
  by_cases absent : predicate = ""
  · by_cases absentToo : predicateToo = ""
    · subst predicate predicateToo
      exact ⟨(String.append_left_inj (clause "")).mp same, rfl⟩
    · subst predicate
      have clear : FreeOf [':'] (y ++ clause "") := free.append (by decide)
      rw [same] at clear
      exact absurd clear (not_freeOf_clause absentToo)
  · by_cases absentToo : predicateToo = ""
    · subst predicateToo
      have clear : FreeOf [':'] (yToo ++ clause "") := freeToo.append (by decide)
      rw [← same] at clear
      exact absurd clear (not_freeOf_clause absent)
    · have colon (s : String) : BeginsWith [':'] (":enable='" ++ s) :=
        .append ⟨':', "enable='".toList, rfl, by decide⟩ s
      rw [append_clause absent, append_clause absentToo] at same
      obtain ⟨sameY, samePredicate⟩ := eq_of_marks (free.append (by decide))
        (freeToo.append (by decide)) (colon _) (colon _) same
      rw [String.append_left_inj] at sameY
      rw [String.append_right_inj, String.append_left_inj] at samePredicate
      exact ⟨sameY, samePredicate⟩

end Gate

/-! ## Graphs -/

namespace Graph

/-- No part holds the character that ends it. -/
structure Delimited (graph : Graph) : Prop where
  picture : FreeOf [',', '['] graph.picture
  x : FreeOf [':'] graph.x
  y : FreeOf [':'] graph.y
  gate : graph.gate.Delimited

/-- A graph can be told from its text. -/
theorem eq_of_render
    {graph graphToo : Graph}
    (delimited : graph.Delimited)
    (delimitedToo : graphToo.Delimited)
    (same : graph.render = graphToo.render) :
    graph = graphToo := by
  have parts (graph : Graph) : graph.render = "movie=" ++ (graph.picture ++
      graph.scaling.clause ++ Scaling.link ++ (graph.x ++ (":" ++ (graph.y ++
        Gate.clause graph.gate.predicate ++ " [out]")))) := by
    simp only [render, Scaling.link, String.append_assoc]
  have colon (s : String) : BeginsWith [':'] (":" ++ s) := .append ⟨':', [], rfl, by decide⟩ s
  rw [parts, parts, String.append_right_inj] at same
  obtain ⟨samePicture, sameScaling, same⟩ := Scaling.clause_inj delimited.picture
    delimitedToo.picture same
  obtain ⟨sameX, same⟩ := eq_of_marks delimited.x delimitedToo.x (colon _) (colon _) same
  rw [String.append_right_inj, String.append_left_inj] at same
  obtain ⟨sameY, samePredicate⟩ := Gate.clause_inj delimited.y delimitedToo.y same
  have sameGate := Gate.eq_of_predicate delimited.gate delimitedToo.gate samePredicate
  cases graph
  cases graphToo
  dsimp only at samePicture sameScaling sameX sameY sameGate
  rw [samePicture, sameScaling, sameX, sameY, sameGate]

end Graph

namespace Watermark

/-- What takes effect of the settings of two watermarks is the same if their filters return the
same list, as long as no part of their graphs holds the character that ends it. -/
theorem settings_of_same_fragment
    {first second : Watermark}
    {priority priorityToo : Value}
    {format formatToo : Option Format}
    {arguments : List Argument}
    (delimited : ∀ graph ∈ first.graph?, graph.Delimited)
    (delimitedToo : ∀ graph ∈ second.graph?, graph.Delimited)
    (returned : (first.toFilter priority).fragment format = .ok (some arguments))
    (returnedToo : (second.toFilter priorityToo).fragment formatToo = .ok (some arguments)) :
    first.path = second.path ∧
      first.size.bind Size.sides? = second.size.bind Size.sides? ∧
      (∃ point, first.placement.resolve? = some point ∧
        second.placement.resolve? = some point) ∧
      ∃ gate, first.window.gate? = some gate ∧ second.window.gate? = some gate := by
  obtain ⟨graph, drawn, rfl⟩ := fragment_eq_ok_iff.mp returned
  obtain ⟨graphToo, drawnToo, sameArguments⟩ := fragment_eq_ok_iff.mp returnedToo
  have sameText : graph.render = graphToo.render := by simpa using sameArguments
  obtain rfl := Graph.eq_of_render (delimited graph drawn) (delimitedToo graphToo drawnToo) sameText
  obtain ⟨path, resolved, gated, scaled⟩ := Graph.ofSettings?_eq_some_iff.mp drawn
  obtain ⟨pathToo, resolvedToo, gatedToo, scaledToo⟩ := Graph.ofSettings?_eq_some_iff.mp drawnToo
  refine ⟨path.symm.trans pathToo, ?_, ⟨_, resolved, resolvedToo⟩, ⟨_, gated, gatedToo⟩⟩
  rw [Size.sides_of_scaling scaled, Size.sides_of_scaling scaledToo]

/-- A watermark that is placed by coordinates and shown for a time. -/
def placedByCoordinates : Watermark where
  path := "logo.png"
  placement := { x := some (.int 10), y := some (.text "main_h/2") }
  size := some { width := some 64, height := some 48 }
  window := { start := some (.int 1), finish := some (.text "t+5") }

/-- The same watermark, placed by its distances from the edges. -/
def placedByDistances : Watermark where
  path := "logo.png"
  placement := { position := .relative, left := some (.text "10"), top := some (.text "main_h/2") }
  size := some { width := some 64, height := some 48 }
  window := { start := some (.text "1"), finish := some (.text "t+5") }

/-- The graph of both. -/
def placedGraph : Graph where
  picture := "logo.png"
  scaling := .sides ⟨64, by decide⟩ ⟨48, by decide⟩
  x := "10"
  y := "main_h/2"
  gate := .between "1" "t+5"

/-- Filters of watermarks with different settings that return the same list. -/
theorem settings_of_placed_watermarks :
    placedByCoordinates.graph? = some placedGraph ∧ placedByDistances.graph? = some placedGraph ∧
      placedGraph.Delimited ∧
      (placedByCoordinates.toFilter (.int 0)).fragment none =
        .ok (some [.text "-vf", .text placedGraph.render]) ∧
      (placedByDistances.toFilter (.int 7)).fragment none =
        .ok (some [.text "-vf", .text placedGraph.render]) ∧
      ∃ point, placedByCoordinates.placement.resolve? = some point ∧
        placedByDistances.placement.resolve? = some point := by
  have drawn : placedByCoordinates.graph? = some placedGraph := rfl
  have drawnToo : placedByDistances.graph? = some placedGraph := rfl
  have delimited : placedGraph.Delimited := ⟨by decide, by decide, by decide, by decide⟩
  have returned : (placedByCoordinates.toFilter (.int 0)).fragment none =
      .ok (some [.text "-vf", .text placedGraph.render]) :=
    fragment_eq_ok_iff.mpr ⟨_, drawn, rfl⟩
  have returnedToo : (placedByDistances.toFilter (.int 7)).fragment none =
      .ok (some [.text "-vf", .text placedGraph.render]) :=
    fragment_eq_ok_iff.mpr ⟨_, drawnToo, rfl⟩
  refine ⟨drawn, drawnToo, delimited, returned, returnedToo, ?_⟩
  refine (settings_of_same_fragment ?_ ?_ returned returnedToo).2.2.1
  · rintro graph ⟨⟩
    exact delimited
  · rintro graph ⟨⟩
    exact delimited

end Watermark
end Filtergraph
