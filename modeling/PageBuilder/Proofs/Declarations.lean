import Mathlib.Data.List.Forall2
import Mathlib.Data.List.Nodup
import PageBuilder.Render.Preview

/-!
# Declarations by property

A resolved style declares each property of a style sheet at most once, in one fixed order. A preview
declares the same and fills in what is left out, so its declarations are those of the style sheet
followed by the fills for other properties; what the style sheet says of a property is therefore
what the preview says of it.
-/

namespace PageBuilder

/-! ## The property of a declaration -/

namespace Declaration

/-- The property that a declaration sets. -/
def property : Declaration → String
  | radius _ => "border-radius"
  | padding _ => "padding"
  | background _ => "background"
  | gradient _ => "background-image"
  | color _ => "color"
  | border _ => "border"
  | align _ => "text-align"
  | fontSize _ => "font-size"
  | width _ => "width"
  | blur _ => "backdrop-filter"
  | opacity _ => "opacity"
  | shadow _ => "box-shadow"
  | font _ => "font-family"
  | animation _ _ => "animation"

/-- All properties, in the order of a style sheet rule. -/
def properties : List String := [
  "border-radius", "padding", "background", "background-image", "color", "border", "text-align",
  "font-size", "width", "backdrop-filter", "opacity", "box-shadow", "font-family", "animation"]

theorem properties_nodup : properties.Nodup := by decide

theorem property_of_css {d : Declaration} {pair : String × String} (h : d.css = some pair) :
    pair.1 = d.property := by
  cases d with
  | gradient spec =>
    simp only [css, Option.ite_none_right_eq_some, Option.some.injEq] at h
    rcases h with ⟨-, rfl⟩
    rfl
  | _ =>
    cases h
    rfl

theorem names_css_sublist (ds : List Declaration) :
    ((ds.filterMap css).map (·.1)).Sublist (ds.map property) := by
  induction ds with
  | nil =>
    exact List.Sublist.refl _
  | cons d rest ih =>
    cases form : d.css with
    | none =>
      rw [List.filterMap_cons_none form]
      exact ih.cons _
    | some pair =>
      rw [List.filterMap_cons_some form, List.map_cons, List.map_cons, property_of_css form]
      exact ih.cons_cons _

/-- Options that each set their own property, if any, set a part of these properties in order. -/
theorem properties_sublist {options : List (Option Declaration)} {names : List String}
    (own : List.Forall₂ (fun option name => ∀ d ∈ option, d.property = name) options names) :
    ((options.filterMap id).map property).Sublist names := by
  induction own with
  | nil =>
    exact List.Sublist.refl _
  | @cons option name options names here _ ih =>
    cases option with
    | none =>
      exact ih.cons _
    | some d =>
      have kept : (some d :: options).filterMap id = d :: options.filterMap id := rfl
      rw [kept, List.map_cons, here d rfl]
      exact ih.cons_cons _

theorem property_of_mem_map {β : Type} {f : β → Declaration} {name : String}
    (same : ∀ b, (f b).property = name) {option : Option β} :
    ∀ d ∈ option.map f, d.property = name := by
  intro d h
  rcases Option.map_eq_some_iff.1 h with ⟨b, -, rfl⟩
  exact same b

end Declaration

namespace Styled

open Declaration

variable (s : Styled)

/-- The padding is four pixels a step, as far as a word goes. -/
theorem padding_eq_mod : s.padding = s.paddingSteps.toNat * 4 % UInt32.size :=
  UInt32.toNat_mul _ _

/-- As long as the pixels fit into a word, every step has its four. -/
theorem padding_of_small (small : s.paddingSteps.toNat < UInt32.size / 4) :
    s.padding = s.paddingSteps.toNat * 4 := by
  have fits : s.paddingSteps.toNat * 4 < UInt32.size := by
    calc
      s.paddingSteps.toNat * 4 < UInt32.size / 4 * 4 := Nat.mul_lt_mul_of_pos_right small (by decide)
      _ = UInt32.size := rfl
  rw [padding_eq_mod, Nat.mod_eq_of_lt fits]

theorem properties_declarations : (s.declarations.map property).Sublist properties := by
  refine properties_sublist ?_
  unfold properties
  repeat
    refine .cons ?_ ?_
    · apply property_of_mem_map
      exact fun _ => rfl
  exact .nil

/-- What is read off the declarations of a style, field by field. -/
theorem filterMap_declarations {β : Type} (read : Declaration → Option β) :
    s.declarations.filterMap read =
      [ s.explicitRadius.bind fun pixels => read (.radius pixels),
        s.element.props.padding.bind fun _ => read (.padding s.padding),
        s.background.bind fun value => read (.background value),
        s.element.props.gradientSpec.bind fun spec => read (.gradient spec),
        s.textColor.bind fun value => read (.color value),
        s.element.props.border.bind fun value => read (.border value),
        s.declaredAlign.bind fun side => read (.align side),
        s.element.props.fontSize.bind fun size => read (.fontSize size),
        s.element.props.width.bind fun mode => read (.width mode),
        s.element.props.blurRadius.bind fun pixels => read (.blur pixels.toNat),
        s.element.props.opacity.bind fun percent => read (.opacity percent.toNat),
        s.element.props.shadow.bind fun preset => read (.shadow preset),
        s.fontStack.bind fun stack => read (.font stack),
        s.element.props.entryAnimation.bind fun (entry, seconds) =>
          read (.animation entry seconds) ].filterMap id := by
  have apart (options : List (Option Declaration)) :
      (options.filterMap id).filterMap read = (options.map (·.bind read)).filterMap id := by
    rw [List.filterMap_filterMap, List.filterMap_map]
    rfl
  rw [declarations, apart]
  simp only [List.map_cons, List.map_nil, Option.bind_map]
  rfl

theorem names_cssPairs : (s.cssPairs.map (·.1)).Sublist properties :=
  (names_css_sublist s.declarations).trans s.properties_declarations

theorem nodup_names_cssPairs : (s.cssPairs.map (·.1)).Nodup :=
  properties_nodup.sublist s.names_cssPairs

end Styled

/-! ## Fills -/

namespace Preview

theorem fill_of_mem {declared : List (String × String)} {pair : String × String}
    (h : pair.1 ∈ declared.map (·.1)) : fill declared pair = declared := by
  have there : declared.any (·.1 == pair.1) = true := by
    simpa [List.any_eq_true] using h
  simp [fill, there]

theorem fill_of_not_mem {declared : List (String × String)} {pair : String × String}
    (h : pair.1 ∉ declared.map (·.1)) : fill declared pair = declared ++ [pair] := by
  have missing : declared.any (·.1 == pair.1) = false := by
    refine List.any_eq_false.2 fun p there same => h ?_
    exact beq_iff_eq.1 same ▸ List.mem_map_of_mem there
  simp [fill, missing]

/-- Fills of different properties are put behind what is declared, but for the properties that are
declared already. -/
theorem foldl_fill {fills : List (String × String)} (distinct : (fills.map (·.1)).Nodup)
    (declared : List (String × String)) :
    fills.foldl fill declared =
      declared ++ fills.filter (fun pair => pair.1 ∉ declared.map (·.1)) := by
  induction fills generalizing declared with
  | nil =>
    simp
  | cons pair rest ih =>
    rw [List.map_cons, List.nodup_cons] at distinct
    rw [List.foldl_cons, ih distinct.2]
    by_cases there : pair.1 ∈ declared.map (·.1)
    · rw [fill_of_mem there, List.filter_cons_of_neg (by simpa using there)]
    · -- The property that is put behind belongs to no later fill.
      have same : rest.filter (fun p => p.1 ∉ (declared ++ [pair]).map (·.1)) =
          rest.filter (fun p => p.1 ∉ declared.map (·.1)) := by
        refine List.filter_congr fun p later => ?_
        have apart : p.1 ≠ pair.1 := fun equal =>
          distinct.1 (equal ▸ List.mem_map_of_mem later)
        simp [apart]
      rw [fill_of_not_mem there, same, List.filter_cons_of_pos (by simpa using there),
        List.append_assoc, List.singleton_append]

theorem nodup_names_fills (s : Styled) (palette : Palette) :
    ((fills s palette).map (·.1)).Nodup := by
  unfold fills
  cases surface? s.element.kind palette with
  | none =>
    simp
  | some color =>
    simp

/-! ## Previews -/

section

variable (e : Element) (brand : Option Brand) (theme : Theme)

/-- A preview declares what the style sheet does, and then the fills for other properties. -/
theorem declarations_of :
    (of e brand theme).declarations = Styled.cssPairs ⟨e, brand⟩ ++
      (fills ⟨e, brand⟩ theme.palette).filter
        (fun pair => pair.1 ∉ (Styled.cssPairs ⟨e, brand⟩).map (·.1)) :=
  foldl_fill (nodup_names_fills _ _) _

theorem nodup_names_of : ((of e brand theme).declarations.map (·.1)).Nodup := by
  rw [declarations_of, List.map_append, List.nodup_append']
  refine ⟨Styled.nodup_names_cssPairs _, ?_, ?_⟩
  · exact (nodup_names_fills ⟨e, brand⟩ theme.palette).sublist (List.filter_sublist.map _)
  · intro name declared filled
    rcases List.mem_map.1 filled with ⟨pair, kept, rfl⟩
    have new := (List.mem_filter.1 kept).2
    exact of_decide_eq_true new declared

/-- Every property that can be filled in is declared. -/
theorem mem_names_of {name : String}
    (h : name ∈ (fills ⟨e, brand⟩ theme.palette).map (·.1)) :
    name ∈ (of e brand theme).declarations.map (·.1) := by
  rw [declarations_of, List.map_append]
  by_cases declared : name ∈ (Styled.cssPairs ⟨e, brand⟩).map (·.1)
  · exact List.mem_append_left _ declared
  · rcases List.mem_map.1 h with ⟨pair, there, rfl⟩
    refine List.mem_append_right _ (List.mem_map_of_mem ?_)
    exact List.mem_filter.2 ⟨there, decide_eq_true declared⟩

end

variable {p : Preview}

theorem declaration?_of_mem (distinct : (p.declarations.map (·.1)).Nodup)
    {pair : String × String} (h : pair ∈ p.declarations) :
    p.declaration? pair.1 = some pair.2 := by
  have there : (p.declarations.find? (·.1 == pair.1)).isSome :=
    List.find?_isSome.2 ⟨pair, h, by simp⟩
  rcases Option.isSome_iff_exists.1 there with ⟨found, first⟩
  have name : found.1 = pair.1 := by simpa using List.find?_some first
  have same : found = pair :=
    List.inj_on_of_nodup_map distinct (List.mem_of_find?_eq_some first) h name
  simp [declaration?, first, same]

theorem isSome_declaration? {name : String} (h : name ∈ p.declarations.map (·.1)) :
    (p.declaration? name).isSome := by
  rcases List.mem_map.1 h with ⟨pair, there, rfl⟩
  rw [declaration?, Option.isSome_map]
  exact List.find?_isSome.2 ⟨pair, there, by simp⟩

end Preview
end PageBuilder
