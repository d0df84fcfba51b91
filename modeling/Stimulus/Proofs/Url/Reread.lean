import Stimulus.Proofs.Url.Address
import Stimulus.Proofs.Url.Reading

/-! Origins, written and read again.  The host of a URL that was read is read again as the same
host, the name and password are encoded so that they are found again before it, and the port behind
it.  So the text of a URL that was read is read as that URL. -/

namespace Stimulus.Url

/-! ### Hosts -/

namespace Host

variable {text : List Char} {host : Host}

/-- What stands in the text of a host that is no address in brackets. -/
def Bare (text : List Char) : Prop :=
  ∀ c ∈ text, c ≠ ':' ∧ c ≠ '[' ∧ c ≠ '@'

theorem bare_of_stays (h : ∀ c ∈ text, Domain.stays c = true) : Bare text := by
  intro c hc
  have hstays := h c hc
  refine ⟨?_, ?_, ?_⟩ <;> rintro rfl <;> exact absurd hstays (by decide +kernel)

/-- A name in its ASCII form is not taken for an address in brackets. -/
theorem parse_of_toAscii? (hne : text ≠ [])
    (hascii : Domain.toAscii? (Percent.decode text) = some text)
    (hhost : (if Ipv4.looksNumeric text then (Ipv4.parse? text).map Host.ipv4
      else some (.domain (String.ofList text))) = some host) :
    parse text = .ok host := by
  have hbare := bare_of_stays (Domain.stays_of_toAscii? hascii)
  unfold parse
  split
  · exact absurd rfl (hbare '[' (.head _)).2.1
  · obtain ⟨c, rest, rfl⟩ := List.exists_cons_of_ne_nil hne
    simp only [hascii]
    split at hhost
    · rename_i hnumeric
      obtain ⟨address, haddress, rfl⟩ := Option.map_eq_some_iff.mp hhost
      simp only [hnumeric, haddress, if_true]
    · rename_i hnumeric
      rw [if_neg hnumeric, Option.some.inj hhost]

theorem parse_address {address : Nat} (h : address < 256 ^ 4) :
    parse (Ipv4.text address) = .ok (.ipv4 address) := by
  refine parse_of_toAscii? (by simp [Ipv4.text]) (Ipv4.toAscii?_text address) ?_
  rw [if_pos (Ipv4.looksNumeric_text address), Ipv4.parse?_text h, Option.map_some]

theorem parse_brackets {inner : List Char} {pieces : List Nat}
    (h : Ipv6.parse? inner = some pieces) :
    parse ('[' :: inner ++ [']']) = .ok (.ipv6 pieces) := by
  simp [parse, h]

/-- A host that was read has a text that is read as the same host. -/
theorem parse_text (h : parse text = .ok host) : parse host.text = .ok host := by
  rcases cases_of_parse h with ⟨inner, pieces, hpieces, rfl⟩ |
    ⟨name, hempty, hname, ⟨address, haddress, rfl⟩ | ⟨hnumeric, rfl⟩⟩
  · obtain ⟨hlength, hsmall⟩ := Ipv6.sound_of_parse? hpieces
    exact parse_brackets (Ipv6.parse?_text hlength hsmall)
  · exact parse_address (Ipv4.lt_of_parse? haddress)
  · rw [Host.text, String.toList_ofList]
    exact parse_of_toAscii? hempty (Domain.toAscii?_of_toAscii? hname) (by simp [hnumeric])

/-- The text of a host that was read has no colon outside brackets, or is an address of version 6
in brackets. -/
theorem bare_or_brackets (h : parse text = .ok host) :
    Bare host.text ∨ ∃ pieces, host = .ipv6 pieces := by
  rcases cases_of_parse h with ⟨_, pieces, -, rfl⟩ | ⟨name, -, hname, ⟨address, -, rfl⟩ | ⟨-, rfl⟩⟩
  · exact .inr ⟨pieces, rfl⟩
  · exact .inl (bare_of_stays (Domain.stays_of_toAscii? (Ipv4.toAscii?_text address)))
  · rw [Host.text, String.toList_ofList]
    exact .inl (bare_of_stays (Domain.stays_of_toAscii? hname))

end Host

/-! ### Ports -/

theorem mem_ipv6_text {pieces : List Nat} {c : Char} (h : c ∈ Ipv6.text pieces) :
    c ≠ ']' ∧ c ≠ '[' ∧ c ≠ '@' := by
  have hdigit : ∀ d < 16,
      Nat.digitChar d ≠ ']' ∧ Nat.digitChar d ≠ '[' ∧ Nat.digitChar d ≠ '@' := by
    decide
  have hpieces {pieces : List Nat} {c : Char} (h : c ∈ Ipv6.piecesText pieces) :
      c ≠ ']' ∧ c ≠ '[' ∧ c ≠ '@' := by
    rcases mem_intercalate h with rfl | ⟨text, htext, hc⟩
    · decide
    · obtain ⟨piece, -, rfl⟩ := List.mem_map.mp htext
      obtain ⟨d, hd, rfl⟩ := exists_digitChar_of_mem_toDigits (by decide) hc
      exact hdigit d hd
  simp only [Ipv6.text] at h
  split at h
  · exact hpieces h
  · rcases List.mem_append.mp h with h | h
    · exact hpieces h
    · rcases List.mem_cons.mp h with rfl | h
      · decide
      · rcases List.mem_cons.mp h with rfl | h
        · decide
        · exact hpieces h

theorem splitPort_append_of_bare {front behind : List Char} (h : Host.Bare front) :
    splitPort false (front ++ behind) =
      (front ++ (splitPort false behind).1, (splitPort false behind).2) := by
  induction front with
  | nil => rfl
  | cons c front ih =>
    obtain ⟨hcolon, hopen, -⟩ := h c (.head _)
    rw [List.cons_append, splitPort, if_neg (fun h => hcolon h.1), if_neg hopen, ite_self,
      ih fun d hd => h d (.tail _ hd)]
    rfl

theorem splitPort_append_of_closed {front behind : List Char} (h : ∀ c ∈ front, c ≠ ']') :
    splitPort true (front ++ behind) =
      (front ++ (splitPort true behind).1, (splitPort true behind).2) := by
  induction front with
  | nil => rfl
  | cons c front ih =>
    rw [List.cons_append, splitPort, if_neg (by simp), if_neg (h c (.head _)), ite_self,
      ih fun d hd => h d (.tail _ hd)]
    rfl

/-- The port behind a host that was read is found again. -/
theorem splitPort_text {text : List Char} {host : Host} (h : Host.parse text = .ok host)
    (behind : List Char) :
    splitPort false (host.text ++ behind) =
      (host.text ++ (splitPort false behind).1, (splitPort false behind).2) := by
  rcases Host.bare_or_brackets h with hbare | ⟨pieces, rfl⟩
  · exact splitPort_append_of_bare hbare
  · rw [Host.text, List.append_assoc, List.cons_append, splitPort, if_neg (by decide), if_pos rfl,
      splitPort_append_of_closed fun c hc => (mem_ipv6_text hc).1, List.singleton_append,
      splitPort, if_neg (by decide), if_neg (by decide), if_pos rfl]
    simp

theorem splitPort_portText (origin : Origin) :
    splitPort false origin.portText = ([], origin.port.map Decimal.ofNat) := by
  unfold Origin.portText
  split
  · rename_i port hport
    rw [splitPort, if_pos (by simp), hport, Option.map_some]
  · rename_i hport
    rw [hport]
    rfl

theorem readPort_ofNat {port : Nat} (h : port ≤ greatestPort) :
    readPort (Decimal.ofNat port) = .ok (some port) := by
  have hvalue : Decimal.value? 10 (Decimal.ofNat port) = some port :=
    Decimal.value?_toDigits (by decide) (by decide) port
  rw [readPort, if_neg (by simp [Decimal.ofNat_ne_nil])]
  simp only [hvalue, if_neg (Nat.not_lt.mpr h)]

theorem le_of_readPort {text : List Char} {port : Nat} (h : readPort text = .ok (some port)) :
    port ≤ greatestPort := by
  unfold readPort at h
  split at h
  · cases h
  · split at h
    · split at h
      · cases h
      · cases h
        omega
    · cases h

/-! ### Names and passwords -/

theorem splitUserInfo_of_not_mem {text : List Char} (h : '@' ∉ text) :
    splitUserInfo text = (none, text) := by
  have hkept : ∀ c ∈ text.reverse, (c != '@') = true := by
    intro c hc
    rw [bne_iff_ne]
    rintro rfl
    exact h (List.mem_reverse.mp hc)
  rw [splitUserInfo, span_eq_self hkept]

/-- An authority is cut at its last `@`. -/
theorem splitUserInfo_append (info : List Char) {host : List Char} (h : '@' ∉ host) :
    splitUserInfo (info ++ '@' :: host) = (some info, host) := by
  have hkept : ∀ c ∈ host.reverse, (c != '@') = true := by
    intro c hc
    rw [bne_iff_ne]
    rintro rfl
    exact h (List.mem_reverse.mp hc)
  rw [splitUserInfo, List.reverse_append, List.reverse_cons, List.append_assoc,
    List.singleton_append, span_append_cons hkept (by decide)]
  simp

/-- A text that is written as part of a name or password. -/
def Encoded (text : String) : Prop :=
  ∀ c ∈ text.toList, Percent.inUserInfo c = false

theorem encoded_encode (text : List Char) :
    Encoded (String.ofList (Percent.encode Percent.inUserInfo text)) := by
  intro c hc
  rw [String.toList_ofList] at hc
  exact Percent.notIn_of_mem_encode (fun _ h => h) (by decide) (by decide) hc

theorem eq_nil_of_encode {inSet : Char → Bool} {text : List Char}
    (h : Percent.encode inSet text = []) : text = [] := by
  cases text with
  | nil => rfl
  | cons c rest =>
    obtain ⟨hc, -⟩ := List.append_eq_nil_iff.mp (List.flatMap_cons.symm.trans h)
    rw [Percent.encodeChar] at hc
    split at hc
    · obtain ⟨b, bytes, hbytes, -⟩ := Percent.utf8EncodeChar_eq_cons c
      rw [hbytes] at hc
      cases hc
    · cases hc

theorem Encoded.encode_eq {text : String} (h : Encoded text) :
    String.ofList (Percent.encode Percent.inUserInfo text.toList) = text := by
  rw [Percent.encode_eq_self h, String.ofList_toList]

theorem Encoded.no_colon {text : String} (h : Encoded text) :
    ∀ c ∈ text.toList, (c != ':') = true := by
  intro c hc
  rw [bne_iff_ne]
  rintro rfl
  exact absurd (h _ hc) (by decide)

theorem readUserInfo_name {user : String} (h : Encoded user) :
    readUserInfo user.toList = (user, none) := by
  rw [readUserInfo, span_eq_self h.no_colon]
  simp only [h.encode_eq]

theorem readUserInfo_password {user password : String} (huser : Encoded user)
    (hpassword : Encoded password) (hne : password ≠ "") :
    readUserInfo (user.toList ++ ':' :: password.toList) = (user, some password) := by
  have hopen : password.toList.isEmpty = false := by
    simpa using hne
  rw [readUserInfo, span_append_cons huser.no_colon (by decide)]
  simp only [huser.encode_eq, hpassword.encode_eq, hopen]
  rfl

/-! ### Origins -/

/-- An origin whose parts are written as they are read. -/
structure Origin.Written (origin : Origin) : Prop where
  user : Encoded origin.user
  password : ∀ password ∈ origin.password, Encoded password ∧ password ≠ ""
  host : ∃ text, Host.parse text = .ok origin.host
  port : ∀ port ∈ origin.port, port ≤ greatestPort ∧ port ≠ origin.scheme.defaultPort

namespace Origin.Written

variable {origin : Origin}

theorem at_not_mem (h : origin.Written) : '@' ∉ origin.host.text ++ origin.portText := by
  have hdigit : ∀ d < 10, Nat.digitChar d ≠ '@' := by decide
  have hhost : '@' ∉ origin.host.text := by
    obtain ⟨text, htext⟩ := h.host
    intro hmem
    rcases Host.bare_or_brackets htext with hbare | ⟨pieces, hpieces⟩
    · exact (hbare _ hmem).2.2 rfl
    · rw [hpieces, Host.text] at hmem
      simp only [List.mem_cons, List.mem_append, List.not_mem_nil, or_false] at hmem
      rcases hmem with (hmem | hmem) | hmem
      · exact absurd hmem (by decide)
      · exact (mem_ipv6_text hmem).2.2 rfl
      · exact absurd hmem (by decide)
  intro hmem
  rcases List.mem_append.mp hmem with hmem | hmem
  · exact hhost hmem
  · unfold portText at hmem
    split at hmem
    · rcases List.mem_cons.mp hmem with hmem | hmem
      · exact absurd hmem (by decide)
      · obtain ⟨d, hd, heq⟩ := Decimal.mem_ofNat hmem
        exact hdigit d hd heq.symm
    · cases hmem

/-- The name and the password before a host are found again. -/
theorem readUserInfo_eq (h : origin.Written) :
    ∃ info, splitUserInfo origin.authority = (info, origin.host.text ++ origin.portText) ∧
      readUserInfo (info.getD []) = (origin.user, origin.password) := by
  have hat := h.at_not_mem
  rw [authority, List.append_assoc, userInfoText]
  split
  · rename_i password hpassword
    obtain ⟨hencoded, hne⟩ := h.password password hpassword
    refine ⟨some (origin.user.toList ++ ':' :: password.toList), ?_, ?_⟩
    · rw [List.append_assoc _ ['@'], List.singleton_append, splitUserInfo_append _ hat]
    · rw [hpassword]
      exact readUserInfo_password h.user hencoded hne
  · rename_i hpassword
    split
    · rename_i hempty
      refine ⟨none, splitUserInfo_of_not_mem hat, ?_⟩
      rw [String.isEmpty_iff.mp hempty, hpassword]
      rfl
    · refine ⟨some origin.user.toList, ?_, ?_⟩
      · rw [List.append_assoc _ ['@'], List.singleton_append, splitUserInfo_append _ hat]
      · rw [hpassword]
        exact readUserInfo_name h.user

/-- The parts of an authority are found again. -/
theorem readAuthority_eq (h : origin.Written) :
    readAuthority true origin.authority =
      .ok ⟨origin.user, origin.password, origin.host.text, origin.port.map Decimal.ofNat⟩ := by
  obtain ⟨info, hsplit, hinfo⟩ := h.readUserInfo_eq
  obtain ⟨text, htext⟩ := h.host
  have hport := splitPort_text htext origin.portText
  rw [splitPort_portText, List.append_nil] at hport
  simp only [readAuthority, hsplit]
  rw [if_neg (by simp [Host.ne_nil_of_parse htext]), hinfo, hport]

/-- An origin whose parts are written as they are read is read again as itself. -/
theorem reread_eq (h : origin.Written) : origin.reread = .ok origin := by
  obtain ⟨text, htext⟩ := h.host
  have hopen : origin.host.text.isEmpty = false := by
    simp [Host.ne_nil_of_parse htext]
  have hport : readPort ((origin.port.map Decimal.ofNat).getD []) = .ok origin.port := by
    cases hport : origin.port with
    | none => rfl
    | some port => exact readPort_ofNat (h.port port hport).1
  have hfilter : origin.port.filter (· != origin.scheme.defaultPort) = origin.port := by
    cases hport : origin.port with
    | none => rfl
    | some port => simpa using (h.port port hport).2
  rw [reread, h.readAuthority_eq]
  simp only [bind, Except.bind, hopen, Bool.false_eq_true, if_false, Host.parse_text htext, hport,
    hfilter]
  rfl

end Origin.Written

theorem encoded_of_readUserInfo {info : List Char} {user : String} {password : Option String}
    (h : readUserInfo info = (user, password)) :
    Encoded user ∧ ∀ text ∈ password, Encoded text ∧ text ≠ "" := by
  unfold readUserInfo at h
  split at h <;> cases h
  · refine ⟨encoded_encode _, fun text htext => ?_⟩
    split at htext
    · cases htext
    · rename_i hne
      obtain rfl := Option.some.inj htext
      refine ⟨encoded_encode _, fun hempty => hne ?_⟩
      rw [String.ofList_eq_empty_iff] at hempty
      exact List.isEmpty_iff.mpr (eq_nil_of_encode hempty)
  · exact ⟨encoded_encode _, nofun⟩

theorem written_of_readWeb {scheme : Scheme} {text : List Char} {url : Url}
    (h : readWeb scheme text = .ok url) : url.origin.Written := by
  obtain ⟨info, host, port, number, _, hinfo, hhost, hread, hport, -⟩ := exists_parts_of_readWeb h
  obtain ⟨huser, hpassword⟩ := encoded_of_readUserInfo hinfo
  refine ⟨huser, hpassword, ⟨host, hhost⟩, fun kept hkept => ?_⟩
  rw [hport] at hkept
  obtain ⟨hnumber, hdefault⟩ := Option.filter_eq_some_iff.mp hkept
  rw [hnumber] at hread
  exact ⟨le_of_readPort hread, by simpa using hdefault⟩

end Stimulus.Url
