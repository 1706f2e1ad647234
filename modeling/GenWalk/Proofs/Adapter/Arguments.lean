import GenWalk.Adapter.Mock
import GenWalk.Adapter.Process
import GenWalk.Proofs.Directive.Writing
import GenWalk.Proofs.Template.Settled
import GenWalk.Proofs.Text.Words

/-!
The arguments of a command. They are the words of the expanded text, so that a command cannot be run
exactly where its expansion has left nothing but blanks; the text that is read off a file is never
blank by itself (`Adapter.Provided.objects_iff_blanked`).
-/

namespace GenWalk

variable {World : Type}

/-- The adapters that run generators as processes, or only note them down. -/
inductive Adapter.Provided : Adapter World → Prop where
  | process (note : LogRecord → World → World) (launch : Launcher World) :
      Provided (ProcessAdapter.adapter note launch)
  | mock (name : Text) (mockOf : World → Mock) (withMock : Mock → World → World) :
      Provided (Mock.adapter name mockOf withMock)

theorem Adapter.Provided.objection?_eq {adapter : Adapter World} (provided : adapter.Provided) :
    adapter.objection? = Context.objection? := by
  cases provided with
  | process note launch => rfl
  | mock name mockOf withMock => rfl

namespace Context

variable {context : Context}

theorem objection?_eq (context : Context) : context.objection? =
    if ∀ glyph ∈ context.command, glyph.isBlank = true then some emptyCommand else none := by
  have none_iff := (Text.parted_words context.command).eq_nil_iff
  unfold objection? arguments
  by_cases blank : ∀ glyph ∈ context.command, glyph.isBlank = true
  · rw [if_pos blank, if_pos (List.isEmpty_iff.2 (none_iff.2 blank))]
  · rw [if_neg blank, if_neg (mt List.isEmpty_iff.1 (mt none_iff.1 blank))]

theorem objection?_of_solid {glyph : Glyph} (member : glyph ∈ context.command)
    (solid : glyph.isBlank = false) : context.objection? = none := by
  rw [objection?_eq, if_neg]
  intro blank
  cases (blank glyph member).symm.trans solid

end Context

theorem FirstLine.Writable.exists_solid {command : Text} (writable : Writable command) :
    ∃ glyph ∈ command, glyph.isBlank = false := by
  obtain ⟨glyph, rest, rfl⟩ := List.exists_cons_of_ne_nil writable.filled
  exact ⟨glyph, List.mem_cons_self, writable.bare.first glyph rfl⟩

namespace Template

theorem mem_expand_of_literal {template : Text} {glyph : Glyph}
    (kept : .literal glyph ∈ segments template) (environment : Environment) :
    glyph ∈ expand template environment :=
  List.mem_flatMap.2 ⟨.literal glyph, kept, List.mem_singleton_self glyph⟩

theorem expand_of_undollared {template : Text} (plain : dollar ∉ template)
    (environment : Environment) : expand template environment = template := by
  have settled : Settled (template ++ []) := settled_append plain settled_nil
  rw [List.append_nil] at settled
  exact expand_of_settled settled environment

end Template

/-- A command that has been read and expanded is objected to exactly where the expansion has left
nothing but blanks. Its arguments hold no blanks, and nothing but blanks is lost with them. It can
be run wherever a solid glyph of the template stands for itself, as all do in one without dollars;
for the template is not blank. -/
theorem Adapter.Provided.objects_iff_blanked {adapter : Adapter World} (provided : adapter.Provided)
    {settings : Settings} {content : Bytes} {template : Text}
    (told : FirstLine.read settings.keyword content = .command template) (filled : template ≠ [])
    {context : Context} {environment : Environment}
    (expanded : context.command = Template.expand template environment) :
    (adapter.objection? context =
      if ∀ glyph ∈ context.command, glyph.isBlank = true then some (Text.ofString "empty command")
      else none) ∧
    (∀ argument ∈ context.arguments,
      argument ≠ [] ∧ ∀ glyph ∈ argument, glyph.isBlank = false) ∧
    context.arguments.flatten = context.command.filter (!·.isBlank) ∧
    (∀ glyph, .literal glyph ∈ Template.segments template → glyph.isBlank = false →
      adapter.objection? context = none) ∧
    (Template.dollar ∉ template →
      context.command = template ∧ adapter.objection? context = none) ∧
    ∃ glyph ∈ template, glyph.isBlank = false := by
  rw [provided.objection?_eq]
  have parted := Text.parted_words context.command
  have solid := (FirstLine.writable_of_read told filled).exists_solid
  refine ⟨context.objection?_eq, parted.solid_of_mem, parted.flatten_eq, fun glyph kept bare => ?_,
    fun plain => ?_, solid⟩
  · have member := Template.mem_expand_of_literal kept environment
    exact Context.objection?_of_solid (expanded ▸ member) bare
  · have same : context.command = template :=
      expanded.trans (Template.expand_of_undollared plain environment)
    obtain ⟨glyph, member, bare⟩ := solid
    exact ⟨same, Context.objection?_of_solid (same ▸ member) bare⟩

def hollow : Text := "$A\u2003$\x7b \x7d $$"

def hollowContext (value : Text) : Context where
  directive := {
    command := hollow
    path := "f"
    root := "."
    expanded := Template.expand hollow (.ofList [("A", value)]) }

def mockAdapter : Adapter Mock := Mock.adapter "mock" id fun mock _ => mock

theorem hollow_objected :
    FirstLine.read Settings.usual.keyword (Utf8.encode ("# helm:generate " ++ hollow ++ "\n")) =
        .command hollow ∧
      hollow ≠ [] ∧ mockAdapter.Provided ∧
      mockAdapter.objection? (hollowContext "\u00A0") = some (Text.ofString "empty command") ∧
      mockAdapter.objection? (hollowContext [.stray 0xA0, .char '\t', .char 'b']) = none ∧
      (hollowContext [.stray 0xA0, .char '\t', .char 'b']).arguments.flatten =
        [.stray 0xA0, .char 'b'] := by
  have told : FirstLine.read Settings.usual.keyword
      (Utf8.encode ("# helm:generate " ++ hollow ++ "\n")) = .command hollow := by
    decide
  have filled : hollow ≠ [] := by decide
  have provided : mockAdapter.Provided := .mock _ _ _
  have expanded (value : Text) : (hollowContext value).command =
      Template.expand hollow (.ofList [("A", value)]) := rfl
  obtain ⟨blanked, _⟩ := provided.objects_iff_blanked told filled (expanded "\u00A0")
  obtain ⟨accepted, _, parts, _⟩ := provided.objects_iff_blanked told filled
    (expanded [.stray 0xA0, .char '\t', .char 'b'])
  rw [if_pos (by decide)] at blanked
  rw [if_neg (by decide)] at accepted
  exact ⟨told, filled, provided, blanked, accepted, parts.trans (by decide)⟩

end GenWalk
