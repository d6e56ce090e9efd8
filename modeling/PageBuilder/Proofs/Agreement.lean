import PageBuilder.Render.Export
import PageBuilder.Proofs.Declarations
import PageBuilder.Proofs.Fragments

/-!
# Agreement of the outputs

The style sheet, the preview and the fragment of an element are made apart from each other. They
agree: the preview draws every declaration of the style sheet rule with the same value, the fragment
has the classes of every declaration, and it shows the text that the preview shows in the tag that
the preview has.
-/

namespace PageBuilder

/-! ## What a fragment shows -/

namespace Fragment

/-- A text within a text. -/
def Contains (whole part : String) : Prop := ∃ before after, whole = before ++ part ++ after

theorem contains_text (e : Element) (piece : Piece) {pieces : List Piece} (h : piece ∈ pieces) :
    Contains (fill e pieces) (piece.text e) := by
  rcases List.append_of_mem h with ⟨before, after, rfl⟩
  refine ⟨fill e before, fill e after, ?_⟩
  simp [fill, String.join_append, String.join_cons, String.append_assoc]

theorem label_mem_body {kind : Kind} (h : kind ≠ .divider) : Piece.label ∈ body kind := by
  cases kind <;> simp [body] at h ⊢

end Fragment

namespace Content

/-- The text that an element shows is its label; only a rule shows none. -/
theorem eq_label_of_primaryText {e : Element} {text : String}
    (h : text ∈ (of e).primaryText) : text = e.label ∧ e.kind ≠ .divider := by
  cases kind : e.kind <;> simp_all [of, primaryText]

theorem eq_of_picture {e : Element} {source alternative : String}
    (h : of e = .picture source alternative) : source = e.imageSource ∧ e.kind = .image := by
  cases kind : e.kind <;> simp [of, kind] at h
  exact ⟨h.1.symm, rfl⟩

end Content

/-! ## The outputs of one element -/

/-- What the outputs of an element under a brand and a theme have to do with each other. -/
structure Agreement (e : Element) (brand : Option Brand) (theme : Theme) : Prop where
  /-- The rule of the style sheet has the resolved pairs as its declarations. -/
  rule : Export.rule e brand =
    e.selector ++ " \x7b\n" ++ Declaration.block (Styled.cssPairs ⟨e, brand⟩) "  " ++ "\x7d"
  /-- The rule declares no property twice. -/
  distinct : ((Styled.cssPairs ⟨e, brand⟩).map (·.1)).Nodup
  /-- The preview has the pairs of the rule, and then the fills for other properties. -/
  drawn : (Preview.of e brand theme).declarations = Styled.cssPairs ⟨e, brand⟩ ++
    (Preview.fills ⟨e, brand⟩ theme.palette).filter
      (fun pair => pair.1 ∉ (Styled.cssPairs ⟨e, brand⟩).map (·.1))
  /-- The preview declares no property twice. -/
  distinct_drawn : ((Preview.of e brand theme).declarations.map (·.1)).Nodup
  /-- The preview has the value of the rule for every property of the rule. -/
  value : ∀ pair ∈ Styled.cssPairs ⟨e, brand⟩,
    (Preview.of e brand theme).declaration? pair.1 = some pair.2
  /-- These are drawn whether or not they are set. -/
  present : ∀ property ∈ ["border-radius", "padding", "color", "text-align", "font-size", "width",
      "box-shadow"], ((Preview.of e brand theme).declaration? property).isSome
  /-- The class list ends with the utility class of every declaration in order, and with those of
  the glass overlay if the brand has it. -/
  classes : Fragment.classList e brand = " ".intercalate
    (e.className :: [e.baseClasses].filter (!·.isEmpty)
      ++ ((Styled.declarations ⟨e, brand⟩).map Declaration.utilityClass
        ++ if Styled.glass ⟨e, brand⟩ then [Styled.glassClasses] else []))
  /-- The fragment opens with the tag of the preview and that class list, and behind them has the
  text of the preview, and the address of its picture. -/
  shown : ∃ rest,
    Fragment.render e brand = "<" ++ (Preview.of e brand theme).tag
      ++ Fragment.attr "class" (Fragment.classList e brand) ++ rest ∧
    (∀ text ∈ (Preview.of e brand theme).content.primaryText,
      Fragment.Contains rest (Markup.escape text)) ∧
    (∀ source alternative, (Preview.of e brand theme).content = .picture source alternative →
      Fragment.Contains rest (Markup.escape source))

namespace Agreement

variable (e : Element) (brand : Option Brand) (theme : Theme)

theorem mem_fills {property : String} (h : property ∈ ["border-radius", "padding", "color",
      "text-align", "font-size", "width", "box-shadow"]) (s : Styled) (palette : Palette) :
    property ∈ (Preview.fills s palette).map (·.1) := by
  simp only [Preview.fills, List.map_append, List.map_cons, List.map_nil, List.mem_append,
    List.mem_cons, List.not_mem_nil, or_false] at h ⊢
  tauto

/-- **The style sheet, the preview and the fragment agree on every element.** -/
theorem of_element : Agreement e brand theme where
  rule := rfl
  distinct := Styled.nodup_names_cssPairs _
  drawn := Preview.declarations_of e brand theme
  distinct_drawn := Preview.nodup_names_of e brand theme
  value pair h := by
    refine Preview.declaration?_of_mem (Preview.nodup_names_of e brand theme) ?_
    rw [Preview.declarations_of]
    exact List.mem_append_left _ h
  present property h :=
    Preview.isSome_declaration? (Preview.mem_names_of e brand theme (mem_fills h _ _))
  classes := Fragment.classList_eq e brand
  shown := by
    refine ⟨Fragment.fill e (Fragment.body e.kind), Fragment.render_eq e brand, ?_, ?_⟩
    · intro text shows
      rcases Content.eq_label_of_primaryText shows with ⟨rfl, labelled⟩
      exact Fragment.contains_text e .label (Fragment.label_mem_body labelled)
    · intro source alternative shows
      rcases Content.eq_of_picture shows with ⟨rfl, image⟩
      rw [image]
      exact Fragment.contains_text e .source (by simp [Fragment.body])

end Agreement
end PageBuilder
