import Stimulus.Proofs.Json.Pretty
import Stimulus.Proofs.Text.Split
import Stimulus.Run

/-! How the texts of a transcript can be told apart.  A failure has a mark of its own at its start,
so nothing else that a run prints can be taken for one; and the lines of a payload with the warning
that it is not sent are those of no payload without it. -/

namespace Stimulus

/-- What the report of a failure starts with. -/
def Report.failureMark : Palette → List Char
  | .plain => ['✗']
  | .ansi => ['\x1b', '[', '3', '1', 'm', '✗']

theorem Report.failureMark_prefix_diagnostic (palette : Palette) (e : Error) :
    failureMark palette <+: (diagnostic palette e).toList := by
  cases palette <;>
    simp [diagnostic, line, failureMark, Palette.paint, Palette.resume, Style.parameters]

theorem Report.not_failureMark_prefix_heading (palette : Palette) (step : Step) :
    ¬failureMark palette <+: (heading palette step).toList := by
  obtain ⟨id, descriptor⟩ := step
  cases palette <;> cases hd : descriptor.description <;>
    simp [heading, line, failureMark, Palette.paint, hd]

theorem Notice.not_failureMark_prefix_output (palette : Palette) (notice : Notice) {text : String}
    (h : notice.output palette = .print text) :
    ¬Report.failureMark palette <+: text.toList := by
  cases notice with
  | log entry => cases h
  | discoverySent request | operationSent _ request =>
    obtain rfl := Output.print.inj h
    cases palette <;> simp [Report.outgoing, Report.line, Report.failureMark, Palette.paint]
  | discoveryReceived reply | operationReceived reply =>
    obtain rfl := Output.print.inj h
    cases palette <;>
      simp [Report.incoming, Report.line, Report.failureMark, Palette.paint, Style.parameters]
  | endpointResolved endpoint =>
    obtain rfl := Output.print.inj h
    cases palette <;> simp [Report.endpoint, Report.line, Report.failureMark]

/-! ### Payloads -/

namespace Report

/-- The lines of pretty text are its pieces between line feeds: it holds no carriage return, and it
does not end with a line feed. -/
theorem linesOf_prettyText (value : Json) :
    linesOf value.prettyText = (value.prettyText.toList.splitOn '\n').map String.ofList := by
  obtain ⟨front, c, heq, hc⟩ := Json.exists_pretty_eq 0 value
  have htext : value.prettyText.toList = front ++ [c] := by
    rw [Json.prettyText, String.toList_ofList, heq]
  obtain ⟨last, hlast⟩ := exists_getLast?_splitOn front hc
  rw [← htext] at hlast
  obtain ⟨ended, hpieces⟩ := List.getLast?_eq_some_iff.mp hlast
  have hended : ended.map dropReturn = ended := by
    refine (List.map_congr_left fun piece hpiece => ?_).trans (List.map_id ended)
    rw [dropReturn, if_neg, id]
    intro hreturn
    have hmem : '\r' ∈ value.prettyText.toList :=
      mem_of_mem_splitOn (by rw [hpieces]; exact List.mem_append_left _ hpiece)
        (List.mem_of_getLast? hreturn)
    exact absurd (Json.eq_newline_of_mem_prettyText hmem (by decide)) (by decide)
  have hkept : (some (last ++ [c])).filter (!·.isEmpty) = some (last ++ [c]) := by simp
  rw [linesOf, hpieces, List.dropLast_concat, hended, List.getLast?_concat, hkept, Option.toList_some]

/-- The lines of a payload that is sent. -/
def payloadLines (payload : Json) : List (List Char) :=
  "  Payload:".toList :: (payload.prettyText.toList.splitOn '\n').map ("    ".toList ++ ·)

/-- A payload that is sent. -/
def sentPayload (payload : Json) : String :=
  line "  Payload:" ++
    String.join ((linesOf payload.prettyText).map fun text => line ("    " ++ text))

/-- The warning that a payload is not sent. -/
def unsentWarning (palette : Palette) (method : Method) : String :=
  "  " ++ palette.paint .odd "!" ++ " payload is not sent with " ++ method.name

theorem toList_sentPayload (payload : Json) :
    (sentPayload payload).toList = (payloadLines payload).flatMap (· ++ ['\n']) := by
  simp [sentPayload, payloadLines, line, linesOf_prettyText, List.flatMap_map, Function.comp_def]

theorem newline_not_mem_payloadLines {payload : Json} {l : List Char}
    (h : l ∈ payloadLines payload) : '\n' ∉ l := by
  rcases List.mem_cons.mp h with rfl | h
  · decide
  · obtain ⟨piece, hpiece, rfl⟩ := List.mem_map.mp h
    simp [not_mem_of_mem_splitOn hpiece]

theorem newline_not_mem_unsentWarning (palette : Palette) (method : Method) :
    '\n' ∉ (unsentWarning palette method).toList := by
  cases palette <;> cases method <;> decide

/-- The warning is no line of a payload: it is indented less. -/
theorem unsentWarning_not_mem_payloadLines (palette : Palette) (method : Method)
    (payload : Json) : (unsentWarning palette method).toList ∉ payloadLines payload := by
  intro h
  rcases List.mem_cons.mp h with h | h
  · revert h
    cases palette <;> cases method <;> decide
  · obtain ⟨piece, -, hpiece⟩ := List.mem_map.mp h
    revert hpiece
    cases palette <;> simp [unsentWarning, Palette.paint]

/-- The lines of a payload with the warning behind them are those of no payload. -/
theorem sentPayload_append_unsentWarning_ne (palette : Palette) (method : Method)
    (given sent : Json) :
    sentPayload given ++ line (unsentWarning palette method) ≠ sentPayload sent := by
  intro h
  -- Both texts would have the same lines, the warning among them.
  have hchars := congrArg String.toList h
  rw [String.toList_append, toList_sentPayload, toList_sentPayload] at hchars
  have hlines :
      payloadLines given ++ [(unsentWarning palette method).toList] = payloadLines sent := by
    refine eq_of_flatMap_append_eq (fun l hl => ?_)
      (fun l hl => newline_not_mem_payloadLines hl) ?_
    · rcases List.mem_append.mp hl with hl | hl
      · exact newline_not_mem_payloadLines hl
      · rw [List.mem_singleton.mp hl]
        exact newline_not_mem_unsentWarning palette method
    · rw [← hchars]
      simp [line]
  exact unsentWarning_not_mem_payloadLines palette method sent (by simp [← hlines])

/-- The lines of a payload stand alone exactly when a request carries it. -/
theorem exists_payload_eq_sentPayload_iff (palette : Palette) (descriptor : Descriptor) :
    (∃ sent, payload palette descriptor = sentPayload sent) ↔ descriptor.body.isSome := by
  rw [payload, Descriptor.body]
  cases hgiven : descriptor.payload with
  | none =>
    have hlabel (sent : Json) :
        line ("  Payload: " ++ palette.paint .aside "none") ≠ sentPayload sent := by
      intro h
      have hchars := congrArg String.toList h
      simp [line, sentPayload] at hchars
    simpa using hlabel
  | some given =>
    cases hcarries : descriptor.method.carriesBody with
    | true => simpa using ⟨given, by simp [sentPayload]⟩
    | false =>
      have hwarned := sentPayload_append_unsentWarning_ne palette descriptor.method given
      simpa [sentPayload, unsentWarning] using hwarned

end Report

end Stimulus
