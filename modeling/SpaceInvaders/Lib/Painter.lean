/-
**Painting one layer over another.**

A layer covers some places with colours; `paint` lays layers over a ground in their order, so that a place
shows the last layer that covers it.

* `paint_of_uncovered`, `paint_of_last`, `paint_cases`: what a place shows;
* `paint_of_agree`: a place on which all layers agree that cover it;
* `Shows.draw`, `Shows.drawAll`, `Shows.untilFailure`: a state whose readings show a picture, and drawing
  operations that lay their layers over what was there.
-/

import SpaceInvaders.Lib.Painting

namespace Painter

variable {Place Color Item State : Type*}

/-- The colours of the places that a layer covers. -/
abbrev Layer (Place Color : Type*) := Place → Option Color

/-- The picture of the layers, painted over the ground in their order. -/
def paint (ground : Place → Color) (layers : List (Layer Place Color)) : Place → Color :=
  layers.foldl (fun shown layer place => (layer place).getD (shown place)) ground

variable {ground : Place → Color} {layers : List (Layer Place Color)} {place : Place}

@[simp] theorem paint_nil : paint ground [] = ground := rfl

theorem paint_append (first second : List (Layer Place Color)) :
    paint ground (first ++ second) = paint (paint ground first) second :=
  List.foldl_append

theorem paint_concat (layer : Layer Place Color) :
    paint ground (layers ++ [layer]) place = (layer place).getD (paint ground layers place) := by
  rw [paint_append]
  rfl

/-- A place that no layer covers shows the ground. -/
theorem paint_of_uncovered (uncovered : ∀ layer ∈ layers, layer place = none) :
    paint ground layers place = ground place := by
  induction layers using List.reverseRecOn with
  | nil => rfl
  | append_singleton layers layer ih =>
    rw [paint_concat, uncovered layer (by simp), Option.getD_none]
    exact ih fun other member => uncovered other (List.mem_append_left _ member)

/-- A place shows the last layer that covers it. -/
theorem paint_of_last {below above : List (Layer Place Color)} {layer : Layer Place Color}
    {color : Color} (covers : layer place = some color)
    (uncovered : ∀ other ∈ above, other place = none) :
    paint ground (below ++ layer :: above) place = color := by
  rw [List.append_cons, paint_append, paint_of_uncovered uncovered, paint_concat, covers,
    Option.getD_some]

/-- **What a place shows**: the ground, or the last layer that covers it. -/
theorem paint_cases (ground : Place → Color) (layers : List (Layer Place Color)) (place : Place) :
    ((∀ layer ∈ layers, layer place = none) ∧ paint ground layers place = ground place) ∨
      ∃ below layer above color, layers = below ++ layer :: above ∧ layer place = some color ∧
        (∀ other ∈ above, other place = none) ∧ paint ground layers place = color := by
  induction layers using List.reverseRecOn with
  | nil => exact .inl ⟨fun layer member => (nomatch member), rfl⟩
  | append_singleton layers layer ih =>
    rw [paint_concat]
    cases covered : layer place with
    | some color =>
      exact .inr ⟨layers, layer, [], color, rfl, covered, fun other member => (nomatch member), rfl⟩
    | none =>
      rw [Option.getD_none]
      rcases ih with ⟨uncovered, same⟩ | ⟨below, last, above, color, split, covers, uncovered, same⟩
      · refine .inl ⟨fun other member => ?_, same⟩
        rcases List.mem_append.mp member with earlier | here
        · exact uncovered other earlier
        · rw [List.mem_singleton.mp here, covered]
      · refine .inr ⟨below, last, above ++ [layer], color, by rw [split]; simp, covers,
          fun other member => ?_, same⟩
        rcases List.mem_append.mp member with earlier | here
        · exact uncovered other earlier
        · rw [List.mem_singleton.mp here, covered]

/-- A covered place on which its layers agree shows their colour. -/
theorem paint_of_agree {layer : Layer Place Color} {color : Color} (member : layer ∈ layers)
    (covers : layer place = some color)
    (agree : ∀ other ∈ layers, other place = none ∨ other place = some color) :
    paint ground layers place = color := by
  rcases paint_cases ground layers place with ⟨uncovered, _⟩ | ⟨below, last, above, shown, split,
    covers', _, same⟩
  · rw [uncovered layer member] at covers
    cases covers
  · rw [same]
    rcases agree last (by rw [split]; simp) with none | some
    · rw [none] at covers'
      cases covers'
    · rw [some] at covers'
      exact (Option.some.inj covers').symm

/-- What is painted over a picture hides it only where it covers. -/
theorem paint_append_of_uncovered {second : List (Layer Place Color)}
    (uncovered : ∀ layer ∈ second, layer place = none) (first : List (Layer Place Color)) :
    paint ground (first ++ second) place = paint ground first place := by
  rw [paint_append, paint_of_uncovered uncovered]

/-! ### Drawing -/

/-- The readings of a state show a picture at the places of the screen. -/
def Shows (read : State → Place → Color) (screen : Place → Prop) (state : State)
    (picture : Place → Color) : Prop :=
  ∀ place, screen place → read state place = picture place

/-- Drawing lays a layer over what was there. -/
def Lays (read : State → Place → Color) (screen : Place → Prop) (draw : State → State)
    (layer : Layer Place Color) : Prop :=
  ∀ state place, screen place → read (draw state) place = (layer place).getD (read state place)

variable {read : State → Place → Color} {screen : Place → Prop} {state : State}
  {layer : Item → Layer Place Color}

theorem Shows.draw {draw : State → State} {upper : Layer Place Color}
    (shows : Shows read screen state (paint ground layers)) (lays : Lays read screen draw upper) :
    Shows read screen (draw state) (paint ground (layers ++ [upper])) := by
  intro place onScreen
  rw [lays state place onScreen, shows place onScreen, paint_concat]

/-- Drawing items one after the other paints their layers in that order. -/
theorem Shows.drawAll {draw : Item → State → State}
    (lays : ∀ item, Lays read screen (draw item) (layer item))
    (shows : Shows read screen state (paint ground layers)) (items : List Item) :
    Shows read screen (items.foldl (fun state item => draw item state) state)
      (paint ground (layers ++ items.map layer)) := by
  induction items generalizing state layers with
  | nil =>
    rw [List.map_nil, List.append_nil]
    exact shows
  | cons item items ih =>
    have rest := ih (shows.draw (lays item))
    rwa [List.append_assoc] at rest

/-- A checked drawing that does not fail has painted all its layers. -/
theorem Shows.untilFailure {body : Item → State → Int × State}
    (lays : ∀ item, Lays read screen (fun state => (body item state).2) (layer item))
    (shows : Shows read screen state (paint ground layers)) {items : List Item}
    (passed : (Painting.untilFailure body items state).1 = 0) :
    Shows read screen (Painting.untilFailure body items state).2
      (paint ground (layers ++ items.map layer)) := by
  induction items generalizing state layers with
  | nil =>
    rw [List.map_nil, List.append_nil]
    exact shows
  | cons item items ih =>
    by_cases goes : (body item state).1 = 0
    · rw [Painting.untilFailure_passed goes] at passed ⊢
      have rest := ih (shows.draw (lays item)) passed
      rwa [List.append_assoc] at rest
    · rw [Painting.untilFailure_failed goes] at passed
      cases passed

end Painter
