import Stimulus.Proofs.Exchange.Alike
import Stimulus.Proofs.Palette.Sequences
import Stimulus.Command

/-! The transcript in two palettes.  Every text of it is painted piece by piece, so with colours it
is the plain text with terminal sequences in it; and no command looks at the palette but to paint,
so its sessions differ in nothing else. -/

namespace Stimulus

open Palette (PaintedText)
open Session (Alike)

namespace Report

theorem painted_line {plain coloured : String} (h : PaintedText plain coloured) :
    PaintedText (line plain) (line coloured) :=
  h.append (.refl "\n")

theorem painted_heading (step : Step) : PaintedText (heading .plain step) (heading .ansi step) := by
  obtain ⟨id, descriptor⟩ := step
  have htitle : PaintedText ("\n" ++ Palette.plain.paint .heading id)
      ("\n" ++ Palette.ansi.paint .heading id) := .append (.refl _) (.paint _ _)
  simp only [heading]
  cases descriptor.description with
  | none => exact painted_line htitle
  | some text => exact painted_line ((htitle.append (.refl _)).append (.paint _ _))

theorem painted_outgoing (label : String) (request : Request) :
    PaintedText (outgoing .plain label request) (outgoing .ansi label request) := by
  have harrow : PaintedText ("\n" ++ Palette.plain.paint .arrow "▶▶▶▶▶" ++ " ")
      ("\n" ++ Palette.ansi.paint .arrow "▶▶▶▶▶" ++ " ") :=
    .append (.append (.refl _) (.paint _ _)) (.refl _)
  exact .append (.append (painted_line (harrow.append (.paint _ _))) (.refl _)) (.refl _)

theorem painted_incoming (reply : Reply) :
    PaintedText (incoming .plain reply) (incoming .ansi reply) :=
  .append (.append (painted_line (.paint _ _)) (painted_line (.paint _ _))) (.refl _)

theorem painted_endpoint (name : String) :
    PaintedText (endpoint .plain name) (endpoint .ansi name) :=
  painted_line (.append (.refl _) (.paint _ _))

theorem painted_diagnostic (e : Error) :
    PaintedText (diagnostic .plain e) (diagnostic .ansi e) :=
  painted_line (.append (.append (.paint _ _) (.refl _)) (.refl _))

theorem painted_payload (descriptor : Descriptor) :
    PaintedText (payload .plain descriptor) (payload .ansi descriptor) := by
  unfold payload
  cases descriptor.payload with
  | none => exact painted_line (.append (.refl _) (.paint _ _))
  | some payload =>
    refine .append (.refl _) ?_
    split
    · exact .refl _
    · exact painted_line (.append (.append (.append (.refl _) (.paint _ _)) (.refl _)) (.refl _))

theorem painted_entry (step : Step) (template : String) :
    PaintedText (entry .plain step template) (entry .ansi step template) := by
  obtain ⟨id, descriptor⟩ := step
  unfold entry
  refine .append (.append (.append (.append (.append (.append (.append ?heading ?description)
    (.refl _)) (.refl _)) (.refl _)) (.refl _)) (painted_payload descriptor)) (.refl _)
  case heading => exact painted_line (.paint .heading id)
  case description =>
    cases descriptor.description with
    | none => exact .refl _
    | some text => exact painted_line (.append (.refl _) (.paint _ _))

theorem painted_client (marker : String) (c : Client) :
    PaintedText (client .plain marker c) (client .ansi marker c) := by
  simp only [client]
  split
  · exact .refl _
  · exact painted_line (.append (.refl _) (.paint _ _))

theorem painted_clients (cs : List Client) :
    PaintedText (clients .plain cs) (clients .ansi cs) := by
  cases cs with
  | nil => exact .refl _
  | cons first rest =>
    have hrest : List.Forall₂ PaintedText (rest.map (client .plain " "))
        (rest.map (client .ansi " ")) := by
      rw [List.forall₂_map_left_iff, List.forall₂_map_right_iff, List.forall₂_same]
      exact fun c _ => painted_client " " c
    exact .append (.append (.append (.refl _) (painted_client _ _)) (.join hrest)) (.refl _)

theorem painted_wellFormed (table : Table) :
    PaintedText (wellFormed .plain table) (wellFormed .ansi table) := by
  have hmark : PaintedText (Palette.plain.paint .good "✓") (Palette.ansi.paint .good "✓") :=
    .paint _ _
  simp only [wellFormed]
  exact painted_line (((((hmark.append (.refl _)).append (.refl _)).append (.refl _)).append
    (.refl _)).append (.refl _))

end Report

/-! ### Sessions -/

/-- Outputs that are the same but for colours. -/
inductive Output.Painted : Output → Output → Prop
  | print {plain coloured : String} (painted : PaintedText plain coloured) :
      Painted (.print plain) (.print coloured)
  | log (entry : Log.Entry) : Painted (.log entry) (.log entry)

theorem Output.Painted.printed {outputs outputs' : List Output}
    (h : List.Forall₂ Output.Painted outputs outputs') :
    PaintedText (Output.printed outputs) (Output.printed outputs') := by
  induction h with
  | nil => exact .refl ""
  | cons h _ ih =>
    cases h with
    | print painted => simpa [Output.printed] using painted.append ih
    | log entry => simpa [Output.printed] using ih

theorem Output.Painted.logged {outputs outputs' : List Output}
    (h : List.Forall₂ Output.Painted outputs outputs') :
    Output.logged outputs = Output.logged outputs' := by
  induction h with
  | nil => rfl
  | cons h _ ih =>
    cases h with
    | print painted => exact ih
    | log entry => exact congrArg (entry :: ·) ih

theorem Notice.painted_output (notice : Notice) :
    (notice.output .plain).Painted (notice.output .ansi) := by
  cases notice with
  | discoverySent request => exact .print (Report.painted_outgoing _ request)
  | discoveryReceived reply | operationReceived reply => exact .print (Report.painted_incoming reply)
  | endpointResolved endpoint => exact .print (Report.painted_endpoint endpoint)
  | operationSent endpoint request => exact .print (Report.painted_outgoing _ request)
  | log entry => exact .log entry

theorem alike_reportFailure (e : Error) :
    Alike Output.Painted (reportFailure .plain e) (reportFailure .ansi e) := by
  unfold reportFailure
  split
  · exact .tell (.log _) (.tell (.print (Report.painted_diagnostic e)) (.done _))
  · exact .done _

theorem alike_runSteps (base : BaseUrl) (steps : List Step) :
    Alike Output.Painted (runSteps .plain base steps) (runSteps .ansi base steps) := by
  induction steps with
  | nil => exact .done _
  | cons step rest ih =>
    refine .tell (.print (Report.painted_heading step)) (.bind (.retell ?_ _) ?_)
    · exact fun notice => .cons notice.painted_output .nil
    · rintro (e | exchange)
      · exact alike_reportFailure e
      · exact ih

theorem alike_runTestCase (base : BaseUrl) (table : Table) (id : String) :
    Alike Output.Painted (runTestCase .plain base table id) (runTestCase .ansi base table id) := by
  unfold runTestCase
  cases table.chain id with
  | ok steps => exact alike_runSteps base steps
  | error e => exact alike_reportFailure e

namespace Command

theorem alike_withResult {α : Type} (result : Except Error α) {next next' : α → CommandSession}
    (h : ∀ value, Alike Output.Painted (next value) (next' value)) :
    Alike Output.Painted (withResult result next) (withResult result next') := by
  cases result with
  | ok value => exact h value
  | error e => exact .done _

theorem alike_withTable (files : FileView) (settings : Settings)
    {next next' : Table → CommandSession}
    (h : ∀ table, Alike Output.Painted (next table) (next' table)) :
    Alike Output.Painted (withTable files settings next) (withTable files settings next') :=
  alike_withResult _ fun table => .tell (.log _) (h table)

theorem alike_printAll {texts texts' : List String} (h : List.Forall₂ PaintedText texts texts') :
    Alike Output.Painted (printAll texts) (printAll texts') := by
  refine .bind (.sayAll ?_) fun _ => .done _
  rw [List.forall₂_map_left_iff, List.forall₂_map_right_iff]
  exact h.imp fun _ _ => .print

theorem forall₂_intersperse {α β : Type} {related : α → β → Prop} {a : α} {b : β}
    (hsep : related a b) {items : List α} {items' : List β}
    (h : List.Forall₂ related items items') :
    List.Forall₂ related (items.intersperse a) (items'.intersperse b) := by
  induction h with
  | nil => exact .nil
  | cons hfirst hrest ih =>
    cases hrest with
    | nil => exact .cons hfirst .nil
    | cons _ _ => exact .cons hfirst (.cons hsep ih)

theorem painted_previews (base : BaseUrl) (steps : List Step) :
    List.Forall₂ PaintedText (previews .plain base steps) (previews .ansi base steps) := by
  refine forall₂_intersperse (.refl "\n") ?_
  rw [List.forall₂_map_left_iff, List.forall₂_map_right_iff, List.forall₂_same]
  exact fun step _ => Report.painted_entry step _

theorem alike_checkTable (table : Table) :
    Alike Output.Painted (checkTable .plain table) (checkTable .ansi table) := by
  unfold checkTable
  cases table.validate with
  | nil => exact alike_printAll (.cons (Report.painted_wellFormed table) .nil)
  | cons problem problems =>
    refine .bind (alike_printAll ?_) fun _ => .done _
    rw [List.forall₂_map_left_iff, List.forall₂_map_right_iff, List.forall₂_same]
    exact fun problem _ => Report.painted_diagnostic problem

/-- No command looks at the palette but to paint. -/
theorem alike_session (files : FileView) (settings : Settings) (command : Command) :
    Alike Output.Painted (command.session .plain files settings)
      (command.session .ansi files settings) := by
  cases command with
  | run id =>
    exact alike_withTable files settings fun table =>
      alike_withResult _ fun base => alike_runTestCase base table id
  | list start =>
    exact alike_withTable files settings fun table =>
      alike_printAll (List.forall₂_same.mpr fun text _ => .refl text)
  | preview id =>
    refine alike_withTable files settings fun table => alike_withResult _ fun base => ?_
    cases table.chain id with
    | ok steps => exact alike_printAll (painted_previews base steps)
    | error e => exact alike_reportFailure e
  | check => exact alike_withTable files settings alike_checkTable
  | devices =>
    refine alike_withResult _ fun base => .bind (.retell ?_ _) ?_
    · exact fun notice => .cons notice.painted_output .nil
    · rintro (e | clients)
      · exact alike_reportFailure e
      · exact alike_printAll (.cons (Report.painted_clients clients) .nil)

end Command

end Stimulus
