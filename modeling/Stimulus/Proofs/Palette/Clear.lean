import Stimulus.Command
import Stimulus.Proofs.Palette.Sequences
import Stimulus.Proofs.Report
import Stimulus.Proofs.Url.Reading

/-! Texts without an escape.  What a plain transcript says has an escape only if it repeats one:
numbers, JSON and URLs are written without, and the rest of it is a name, a path, a description, or a
reply. -/

namespace Stimulus

namespace Palette

/-- A text with no character that starts a terminal sequence. -/
structure Clear (text : String) : Prop where
  not_mem : escape ∉ text.toList

theorem clear_iff {text : String} : Clear text ↔ escape ∉ text.toList :=
  ⟨Clear.not_mem, Clear.mk⟩

instance (text : String) : Decidable (Clear text) :=
  decidable_of_iff' _ clear_iff

theorem clear_ofList {text : List Char} : Clear (String.ofList text) ↔ escape ∉ text := by
  rw [clear_iff, String.toList_ofList]

/-- A painted text is the plain one again without its sequences. -/
theorem PaintedText.plainText_eq {plain coloured : String} (h : PaintedText plain coloured)
    (hplain : Clear plain) : plainText coloured = plain := by
  rw [plainText, Painted.withoutSequences_eq h hplain.not_mem, String.ofList_toList]

@[simp] theorem clear_append {front back : String} :
    Clear (front ++ back) ↔ Clear front ∧ Clear back := by
  simp [clear_iff]

theorem clear_join {texts : List String} (h : ∀ text ∈ texts, Clear text) :
    Clear (String.join texts) := by
  induction texts with
  | nil => decide
  | cons text texts ih =>
    obtain ⟨htext, htexts⟩ := List.forall_mem_cons.mp h
    rw [String.join_cons, clear_append]
    exact ⟨htext, ih htexts⟩

theorem clear_intercalate {separator : String} (hseparator : Clear separator)
    {texts : List String} (h : ∀ text ∈ texts, Clear text) :
    Clear (separator.intercalate texts) := by
  induction texts with
  | nil => simp +decide
  | cons text texts ih =>
    obtain ⟨htext, htexts⟩ := List.forall_mem_cons.mp h
    by_cases hempty : texts = []
    · subst hempty
      simpa using htext
    · rw [String.intercalate_cons_of_ne_nil hempty, clear_append, clear_append]
      exact ⟨⟨htext, hseparator⟩, ih htexts⟩

/-- An escape is a control character. -/
theorem clear_of_visible {text : List Char} (h : Json.Visible text) : Clear (String.ofList text) := by
  rw [clear_ofList]
  intro hescape
  exact absurd (h escape hescape) (by decide)

theorem clear_of_allNumeral {text : List Char} (h : Decimal.AllNumeral text) :
    Clear (String.ofList text) :=
  clear_of_visible fun c hc => Decimal.le_of_isNumeral (h c hc)

@[simp] theorem clear_ofNat (n : Nat) : Clear (String.ofList (Decimal.ofNat n)) :=
  clear_of_allNumeral (Decimal.allNumeral_ofNat n)

@[simp] theorem clear_json (value : Json) : Clear value.text :=
  clear_of_visible (Json.visible_compact value)

theorem clear_prettyText (value : Json) : Clear value.prettyText := by
  rw [clear_iff]
  intro hescape
  exact absurd (Json.eq_newline_of_mem_prettyText hescape (by decide)) (by decide)

theorem escape_not_mem_toDigits (n : Nat) : escape ∉ Nat.toDigits 16 n := by
  induction n using Nat.strongRecOn with
  | ind n ih =>
    have hdigit (d : Nat) : escape ∉ [d.digitChar] := by
      rw [List.mem_singleton]
      exact Ne.symm (Nat.digitChar_ne escape (by decide))
    rw [Nat.toDigits_eq_if (by decide)]
    split
    · exact hdigit n
    · intro hescape
      rcases List.mem_append.mp hescape with hescape | hescape
      · exact ih (n / 16) (by omega) hescape
      · exact hdigit _ hescape

/-- Quotes show an escape by its number. -/
theorem clear_quoted (text : String) : Clear (Text.quoted text) := by
  have hchar (c : Char) : escape ∉ Text.quoteChar c := by
    unfold Text.quoteChar
    split
    case h_7 =>
      split
      · rename_i hprintable
        rw [List.mem_singleton]
        rintro rfl
        exact absurd hprintable (by decide)
      · simp +decide [escape_not_mem_toDigits]
    all_goals decide
  simp +decide [Text.quoted, clear_ofList, hchar]

end Palette

open Palette (Clear)

/-! ### URLs -/

theorem Url.Legible.clear_text {url : Url} (h : url.Legible) : Clear url.text := by
  rw [Url.text]
  exact Palette.clear_of_visible fun c hc => Nat.le_of_lt (h.lt_of_mem_chars hc)

namespace BaseUrl

variable {base : BaseUrl}

theorem mem_replaceFirst {old new text : List Char} {c : Char}
    (h : c ∈ replaceFirst old new text) : c ∈ new ∨ c ∈ text := by
  fun_induction replaceFirst old new text with
  | case1 => exact .inr h
  | case2 c' rest _ =>
    rcases List.mem_append.mp h with h | h
    · exact .inl h
    · exact .inr (List.mem_of_mem_drop h)
  | case3 c' rest _ ih =>
    rcases List.mem_cons.mp h with rfl | h
    · exact .inr (.head _)
    · exact (ih h).imp_right (.tail _)

/-- The placeholder and the slash before it are the only characters of a template that need not be
those of a URL. -/
theorem clear_template (h : base.url.Legible) (descriptor : Descriptor) :
    Clear (base.template descriptor) := by
  have hclients := (legible_clients h).clear_text
  have hoperation := (legible_operation h placeholder descriptor).clear_text
  rw [Url.text, Palette.clear_ofList] at hclients hoperation
  rw [template, Palette.clear_ofList]
  intro hescape
  rcases mem_replaceFirst hescape with hescape | hescape
  · rcases List.mem_append.mp hescape with hescape | hescape
    · rcases List.mem_append.mp hescape with hescape | hescape
      · exact hclients hescape
      · exact absurd hescape (by decide)
    · exact absurd hescape (by decide)
  · exact hoperation hescape

end BaseUrl

/-! ### Reports -/

/-- An entry whose own texts have no escape; the strings of its payload may have some. -/
structure Descriptor.IsClear (descriptor : Descriptor) : Prop where
  description : ∀ text ∈ descriptor.description, Clear text
  path : Clear descriptor.path
  next : ∀ id ∈ descriptor.next, Clear id

instance (descriptor : Descriptor) : Decidable descriptor.IsClear :=
  decidable_of_iff ((∀ text ∈ descriptor.description, Clear text) ∧ Clear descriptor.path ∧
      ∀ id ∈ descriptor.next, Clear id)
    ⟨fun h => ⟨h.1, h.2.1, h.2.2⟩, fun h => ⟨h.description, h.path, h.next⟩⟩

/-- A step whose texts have no escape. -/
structure Step.IsClear (step : Step) : Prop where
  id : Clear step.1
  descriptor : step.2.IsClear

instance (step : Step) : Decidable (Step.IsClear step) :=
  decidable_of_iff (Clear step.1 ∧ step.2.IsClear)
    ⟨fun h => ⟨h.1, h.2⟩, fun h => ⟨h.id, h.descriptor⟩⟩

structure Client.IsClear (client : Client) : Prop where
  endpoint : Clear client.endpoint
  registrationId : ∀ text ∈ client.registrationId, Clear text
  address : ∀ text ∈ client.address, Clear text
  version : ∀ text ∈ client.version, Clear text

@[simp] theorem Method.clear_name (method : Method) : Clear method.name := by
  cases method <;> decide

@[simp] theorem ContentFormat.clear_name (format : ContentFormat) : Clear format.name := by
  cases format <;> decide

namespace Report

@[simp] theorem clear_line {text : String} : Clear (line text) ↔ Clear text := by
  simp +decide [line]

theorem clear_heading {step : Step} (h : Step.IsClear step) : Clear (heading .plain step) := by
  obtain ⟨id, descriptor⟩ := step
  have hid : Clear id := h.id
  have hdescription := h.descriptor.description
  simp only [heading, Palette.paint]
  cases hgiven : descriptor.description with
  | none => simp +decide [hid]
  | some text => simp +decide [hid, hdescription text hgiven]

theorem clear_outgoing {label : String} {request : Request} (hlabel : Clear label)
    (hurl : Clear request.url) : Clear (outgoing .plain label request) := by
  cases hbody : request.body <;>
    simp +decide [outgoing, Palette.paint, Request.text, hlabel, hurl, hbody]

theorem clear_incoming {reply : Reply} (h : Clear reply.body) : Clear (incoming .plain reply) := by
  simp +decide [incoming, Palette.paint, h]

theorem clear_endpoint {name : String} (h : Clear name) : Clear (endpoint .plain name) := by
  simp +decide [endpoint, Palette.paint, h]

theorem clear_diagnostic {e : Error} (h : Clear e.message) : Clear (diagnostic .plain e) := by
  simp +decide [diagnostic, Palette.paint, h]

theorem clear_payload (descriptor : Descriptor) : Clear (payload .plain descriptor) := by
  simp only [payload, Palette.paint]
  cases descriptor.payload with
  | none => simp +decide
  | some payload =>
    have hlines : Clear (String.join ((linesOf payload.prettyText).map
        fun text => line ("    " ++ text))) := by
      rw [linesOf_prettyText, List.map_map]
      refine Palette.clear_join fun text htext => ?_
      obtain ⟨piece, hpiece, rfl⟩ := List.mem_map.mp htext
      have hclear : Clear (String.ofList piece) := by
        rw [Palette.clear_ofList]
        exact fun hescape =>
          (Palette.clear_prettyText payload).not_mem (mem_of_mem_splitOn hpiece hescape)
      simp +decide [hclear]
    have hwarning : Clear (if descriptor.method.carriesBody then ""
        else line ("  " ++ "!" ++ " payload is not sent with " ++ descriptor.method.name)) := by
      split <;> simp +decide
    rw [Palette.clear_append, Palette.clear_append]
    exact ⟨⟨by decide, hlines⟩, hwarning⟩

theorem clear_entry {step : Step} {template : String} (h : Step.IsClear step)
    (htemplate : Clear template) : Clear (entry .plain step template) := by
  obtain ⟨id, descriptor⟩ := step
  have hmethod : Clear (line ("  Method:  " ++ descriptor.method.name)) := by simp +decide
  have hpath : Clear (line ("  Path:    " ++ descriptor.path)) := by
    simp +decide [show Clear descriptor.path from h.descriptor.path]
  have hformat : Clear (line ("  Format:  " ++ descriptor.format.name)) := by simp +decide
  have hurl : Clear (line ("  URL:     " ++ template)) := by simp +decide [htemplate]
  simp only [entry, Palette.paint, Palette.clear_append]
  refine ⟨⟨⟨⟨⟨⟨⟨clear_line.mpr h.id, ?description⟩, hmethod⟩, hpath⟩, hformat⟩, hurl⟩,
    clear_payload descriptor⟩, ?next⟩
  case description =>
    cases hgiven : descriptor.description with
    | none => decide
    | some text => simp +decide [h.descriptor.description text hgiven]
  case next =>
    cases hgiven : descriptor.next with
    | none => decide
    | some next => simp +decide [h.descriptor.next next hgiven]

theorem clear_client {marker : String} {c : Client} (hmarker : Clear marker) (h : c.IsClear) :
    Clear (client .plain marker c) := by
  have hdetails : ∀ text ∈ clientDetails c, Clear text := by
    intro text htext
    simp only [clientDetails, List.mem_append, Option.mem_toList, Option.map_eq_some_iff] at htext
    rcases htext with (htext | ⟨version, hversion, rfl⟩) | ⟨registration, hregistration, rfl⟩
    · exact h.address text htext
    · simp +decide [h.version version hversion]
    · simp +decide [h.registrationId registration hregistration]
  have hjoined := @Palette.clear_intercalate ", " (by decide) _ hdetails
  simp only [client, Palette.paint]
  split <;> simp +decide [hmarker, h.endpoint, hjoined]

theorem clear_clients {cs : List Client} (h : ∀ c ∈ cs, c.IsClear) : Clear (clients .plain cs) := by
  cases cs with
  | nil => decide
  | cons first rest =>
    obtain ⟨hfirst, hrest⟩ := List.forall_mem_cons.mp h
    have hlines : Clear (String.join (rest.map (client .plain " "))) := by
      refine Palette.clear_join fun text htext => ?_
      obtain ⟨c, hc, rfl⟩ := List.mem_map.mp htext
      exact clear_client (by decide) (hrest c hc)
    have hmarked : Clear (client .plain "*" first) := clear_client (by decide) hfirst
    simp +decide [clients, hmarked, hlines]

theorem clear_wellFormed {table : Table} (h : Clear table.name) :
    Clear (wellFormed .plain table) := by
  simp +decide [wellFormed, Palette.paint, h]

end Report

end Stimulus
