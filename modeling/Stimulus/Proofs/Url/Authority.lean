import Mathlib.Data.Nat.Digits.Lemmas
import Stimulus.Proofs.Result
import Stimulus.Proofs.Url.Settled

/-! What stands between the scheme and the path of a URL.  The user, the host and the port of a URL
that was read are written in characters that end no authority and that no reader drops, and the
host is not empty; so the authority of a URL is found again in its text. -/

namespace Stimulus

/-- The digits of a number in a base are those below the base. -/
theorem exists_digitChar_of_mem_toDigits {b n : Nat} {c : Char} (hb : 1 < b)
    (h : c ∈ Nat.toDigits b n) : ∃ d < b, c = Nat.digitChar d := by
  induction n using Nat.strong_induction_on with
  | _ n ih =>
    rw [Nat.toDigits_eq_if hb] at h
    split at h
    · exact ⟨n, ‹_›, List.mem_singleton.mp h⟩
    · rcases List.mem_append.mp h with h | h
      · exact ih (n / b) (Nat.div_lt_self (by omega) hb) h
      · exact ⟨n % b, Nat.mod_lt _ (by omega), List.mem_singleton.mp h⟩

/-- A list that is computed item by item has for each of its values an item. -/
theorem exists_of_mem_mapM_eq_some {α β : Type} {f : α → Option β} {items : List α}
    {values : List β} (h : items.mapM f = some values) {value : β} (hvalue : value ∈ values) :
    ∃ item ∈ items, f item = some value := by
  induction items generalizing values with
  | nil =>
    obtain rfl : [] = values := by simpa using h
    cases hvalue
  | cons item rest ih =>
    rw [List.mapM_cons] at h
    simp only [Option.bind_eq_bind, Option.bind_eq_some_iff, Option.pure_def] at h
    obtain ⟨first, hfirst, others, hothers, h⟩ := h
    obtain rfl := Option.some.inj h
    rcases List.mem_cons.mp hvalue with rfl | hvalue
    · exact ⟨item, .head _, hfirst⟩
    · obtain ⟨other, hmem, hother⟩ := ih hothers hvalue
      exact ⟨other, .tail _ hmem, hother⟩

namespace Url

/-- A visible character that ends no authority. -/
def Solid (c : Char) : Prop :=
  0x20 < c.toNat ∧ endsAuthority true c = false

instance (c : Char) : Decidable (Solid c) :=
  inferInstanceAs (Decidable (_ ∧ _))

/-- A text of visible characters that end no authority. -/
def AllSolid (text : List Char) : Prop :=
  ∀ c ∈ text, Solid c

@[simp] theorem allSolid_nil : AllSolid [] := by
  simp [AllSolid]

@[simp] theorem allSolid_cons {c : Char} {text : List Char} :
    AllSolid (c :: text) ↔ Solid c ∧ AllSolid text := by
  simp [AllSolid]

@[simp] theorem allSolid_append {front back : List Char} :
    AllSolid (front ++ back) ↔ AllSolid front ∧ AllSolid back := by
  simp [AllSolid, or_imp, forall_and]

theorem solid_digitChar {d : Nat} (h : d < 16) : Solid (Nat.digitChar d) := by
  revert d
  decide

theorem allSolid_toDigits {b : Nat} (hb : 1 < b) (hb16 : b ≤ 16) (n : Nat) :
    AllSolid (Nat.toDigits b n) := by
  intro c hc
  obtain ⟨d, hd, rfl⟩ := exists_digitChar_of_mem_toDigits hb hc
  exact solid_digitChar (by omega)

/-! ### Domain names -/

namespace Punycode

theorem threshold_bounds (bias k : Nat) : 1 ≤ threshold bias k ∧ threshold bias k ≤ 26 := by
  unfold threshold
  omega

theorem exists_digit_of_mem_number {bias k n : Nat} {c : Char} (h : c ∈ number bias k n) :
    ∃ d < 36, c = digit d := by
  have hbounds := threshold_bounds bias k
  induction n using Nat.strong_induction_on generalizing k with
  | _ n ih =>
    rw [number] at h
    split at h
    · exact ⟨n, by omega, List.mem_singleton.mp h⟩
    · rcases List.mem_cons.mp h with h | h
      · have hmod := Nat.mod_lt (n - threshold bias k) (show 0 < 36 - threshold bias k by omega)
        exact ⟨_, by omega, h⟩
      · have hsmaller : (n - threshold bias k) / (36 - threshold bias k) < n := by
          have := Nat.div_le_self (n - threshold bias k) (36 - threshold bias k)
          omega
        exact ih _ hsmaller h (threshold_bounds bias (k + 36))

/-- The digits of a writer are digits. -/
def Writer.Sound (w : Writer) : Prop :=
  ∀ c ∈ w.digits, ∃ d < 36, c = digit d

theorem Writer.Sound.step {w : Writer} (h : w.Sound) (point basic : Nat) (c : Char) :
    (Writer.step point basic w c).Sound := by
  unfold Writer.step
  split
  · exact h
  · split
    · intro d hd
      rcases List.mem_append.mp hd with hd | hd
      · exact exists_digit_of_mem_number (List.mem_reverse.mp hd)
      · exact h d hd
    · exact h

theorem Writer.Sound.point {w : Writer} (h : w.Sound) (text : List Char) (basic point : Nat) :
    (Writer.point text basic w point).Sound := by
  have hfold : ∀ w : Writer, w.Sound → (text.foldl (Writer.step point basic) w).Sound := by
    induction text with
    | nil => exact fun w h => h
    | cons c text ih => exact fun w h => ih _ (h.step point basic c)
  exact hfold _ h

/-- An ASCII form is written in characters of the text, hyphens and digits. -/
theorem mem_encode {text : List Char} {c : Char} (h : c ∈ encode text) :
    c ∈ text ∨ c = '-' ∨ ∃ d < 36, c = digit d := by
  have hfold : ∀ (points : List Nat) (w : Writer), w.Sound →
      (points.foldl (Writer.point text (text.filter (·.toNat < 0x80)).length) w).Sound := by
    intro points
    induction points with
    | nil => exact fun w h => h
    | cons point points ih => exact fun w h => ih _ (h.point text _ point)
  unfold encode at h
  generalize hpoints :
    (((text.filter (0x80 ≤ ·.toNat)).map Char.toNat).mergeSort.eraseDups) = points at h
  have hdigits := hfold points ⟨0x80, 72, (text.filter (·.toNat < 0x80)).length, 0, []⟩
    (by simp [Writer.Sound])
  dsimp only at h
  split at h
  · exact .inr (.inr (hdigits c (List.mem_reverse.mp h)))
  · rcases List.mem_append.mp h with h | h
    · exact .inl (List.mem_of_mem_filter h)
    · rcases List.mem_cons.mp h with h | h
      · exact .inr (.inl h)
      · exact .inr (.inr (hdigits c (List.mem_reverse.mp h)))

end Punycode

namespace Domain

theorem solid_of_isForbidden {c : Char} (h : isForbidden c = false) : Solid c := by
  simp only [isForbidden, Bool.or_eq_false_iff, decide_eq_false_iff_not] at h
  obtain ⟨⟨hlow, -⟩, hlisted⟩ := h
  refine ⟨by omega, ?_⟩
  simp only [List.contains_cons, Bool.or_eq_false_iff] at hlisted
  simp [endsAuthority, hlisted]

theorem allSolid_of_isSound {text : List Char} (h : isSound text = true) : AllSolid text := by
  simp only [isSound, Bool.and_eq_true] at h
  intro c hc
  have hstays := List.all_eq_true.mp h.1.1.1.1 c hc
  simp only [stays, Bool.and_eq_true, Bool.not_eq_true'] at hstays
  exact solid_of_isForbidden hstays.2

theorem allSolid_of_labelForm? {text form : List Char} (htext : AllSolid text)
    (h : labelForm? text = some form) : AllSolid form := by
  unfold labelForm? at h
  split at h
  · obtain rfl := Option.some.inj h
    exact htext
  · dsimp only at h
    split at h
    · obtain rfl := Option.some.inj h
      intro c hc
      have hmark : ("xn--".toList.all fun c => decide (Solid c)) = true := by decide
      have hdigit : ∀ d < 36, Solid (Punycode.digit d) := by decide
      rcases List.mem_append.mp hc with hc | hc
      · exact of_decide_eq_true (List.all_eq_true.mp hmark c hc)
      · rcases Punycode.mem_encode hc with hc | rfl | ⟨d, hd, rfl⟩
        · exact htext c hc
        · decide
        · exact hdigit d hd
    · cases h

theorem allSolid_of_toAscii? {bytes : List UInt8} {name : List Char}
    (h : toAscii? bytes = some name) : AllSolid name := by
  simp only [toAscii?, Option.bind_eq_bind, Option.bind_eq_some_iff] at h
  obtain ⟨given, -, mapped, -, texts, -, h⟩ := h
  split at h
  · rename_i hall
    simp only [Option.bind_eq_some_iff, Option.pure_def] at h
    obtain ⟨forms, hforms, h⟩ := h
    obtain rfl := Option.some.inj h
    have hsolid : ∀ form ∈ forms, AllSolid form := by
      intro form hform
      obtain ⟨text, htext, hlabel⟩ := exists_of_mem_mapM_eq_some hforms hform
      have hsound := List.all_eq_true.mp hall text htext
      rw [Bool.and_eq_true] at hsound
      exact allSolid_of_labelForm? (allSolid_of_isSound hsound.1) hlabel
    intro c hc
    rcases mem_intercalate hc with rfl | ⟨form, hform, hc⟩
    · decide
    · exact hsolid form hform c hc
  · cases h

end Domain

/-! ### Hosts -/

theorem allSolid_ofNat (n : Nat) : AllSolid (Decimal.ofNat n) :=
  allSolid_toDigits (by decide) (by decide) n

theorem allSolid_ipv4 (address : Nat) : AllSolid (Ipv4.text address) := by
  have hdot : Solid '.' := by decide
  simp [Ipv4.text, allSolid_ofNat, hdot]

theorem allSolid_pieces (pieces : List Nat) : AllSolid (Ipv6.piecesText pieces) := by
  intro c hc
  rcases mem_intercalate hc with rfl | ⟨text, htext, hc⟩
  · decide
  · obtain ⟨piece, -, rfl⟩ := List.mem_map.mp htext
    exact allSolid_toDigits (by decide) (by decide) piece c hc

theorem allSolid_ipv6 (pieces : List Nat) : AllSolid (Ipv6.text pieces) := by
  have hcolon : Solid ':' := by decide
  simp only [Ipv6.text]
  split
  · exact allSolid_pieces pieces
  · simp [allSolid_pieces, hcolon]

/-- A host that is read is an address of version 6 in brackets, or else the name that is its ASCII
form, which is an address of version 4 if it looks like a number. -/
theorem Host.cases_of_parse {text : List Char} {host : Host} (h : Host.parse text = .ok host) :
    (∃ inner pieces, Ipv6.parse? inner = some pieces ∧ host = .ipv6 pieces) ∨
      ∃ name, name ≠ [] ∧ Domain.toAscii? (Percent.decode text) = some name ∧
        ((∃ address, Ipv4.parse? name = some address ∧ host = .ipv4 address) ∨
          Ipv4.looksNumeric name = false ∧ host = .domain (String.ofList name)) := by
  unfold Host.parse at h
  split at h
  · split at h
    · split at h
      · rename_i pieces hpieces
        cases h
        exact .inl ⟨_, pieces, hpieces, rfl⟩
      · cases h
    · cases h
  · split at h
    · cases h
    · cases h
    · rename_i name hempty hname
      refine .inr ⟨name, hempty, hname, ?_⟩
      split at h
      · split at h
        · rename_i address haddress
          cases h
          exact .inl ⟨address, haddress, rfl⟩
        · cases h
      · rename_i hnumeric
        cases h
        exact .inr ⟨by simpa using hnumeric, rfl⟩

theorem Host.ne_nil_of_parse {text : List Char} {host : Host} (h : Host.parse text = .ok host) :
    host.text ≠ [] := by
  rcases cases_of_parse h with ⟨_, _, -, rfl⟩ | ⟨name, hempty, -, ⟨_, -, rfl⟩ | ⟨-, rfl⟩⟩
  · simp [Host.text]
  · simp [Host.text, Ipv4.text]
  · simpa [Host.text] using hempty

theorem Host.allSolid_of_parse {text : List Char} {host : Host} (h : Host.parse text = .ok host) :
    AllSolid host.text := by
  have hopen : Solid '[' := by decide
  have hclose : Solid ']' := by decide
  rcases cases_of_parse h with ⟨_, _, -, rfl⟩ | ⟨name, -, hname, ⟨address, -, rfl⟩ | ⟨-, rfl⟩⟩
  · simp [Host.text, allSolid_ipv6, hopen, hclose]
  · exact allSolid_ipv4 address
  · simpa [Host.text] using Domain.allSolid_of_toAscii? hname

/-! ### Origins -/

theorem solid_of_inUserInfo {c : Char} (h : Percent.inUserInfo c = false) : Solid c := by
  simp only [Percent.inUserInfo, Bool.or_eq_false_iff] at h
  obtain ⟨hpath, hlisted⟩ := h
  refine ⟨Percent.lt_of_inPath hpath, ?_⟩
  simp only [Percent.inPath, Bool.or_eq_false_iff, List.contains_cons] at hpath hlisted
  simp [endsAuthority, hpath, hlisted]

theorem allSolid_encode_inUserInfo (text : List Char) :
    AllSolid (Percent.encode Percent.inUserInfo text) := by
  have hdigit : ∀ n < 16, Solid (Percent.digit n) := by decide
  intro c hc
  rcases Percent.mem_encode hc with h | rfl | ⟨n, hn, rfl⟩
  · exact solid_of_inUserInfo h
  · decide
  · exact hdigit n hn

theorem allSolid_userInfo {info : List Char} {user : String} {password : Option String}
    (h : readUserInfo info = (user, password)) :
    AllSolid user.toList ∧ ∀ text ∈ password, AllSolid text.toList := by
  unfold readUserInfo at h
  split at h <;> cases h
  · refine ⟨by simpa using allSolid_encode_inUserInfo _, fun text htext => ?_⟩
    split at htext
    · cases htext
    · obtain rfl := Option.some.inj htext
      simpa using allSolid_encode_inUserInfo _
  · exact ⟨by simpa using allSolid_encode_inUserInfo _, nofun⟩

/-- The user, the host and the port, as they stand between the scheme and the path. -/
def Origin.authority (origin : Origin) : List Char :=
  origin.userInfoText ++ origin.host.text ++ origin.portText

theorem Origin.text_eq (origin : Origin) :
    origin.text = origin.scheme.name.toList ++ ':' :: '/' :: '/' :: origin.authority := by
  simp [Origin.text, Origin.authority]

/-- An authority that is found again in the text of a URL. -/
structure Origin.Legible (origin : Origin) : Prop where
  nonempty : origin.authority ≠ []
  solid : AllSolid origin.authority

theorem Origin.legible_of_parts {origin : Origin} {info host : List Char}
    (huser : readUserInfo info = (origin.user, origin.password))
    (hhost : Host.parse host = .ok origin.host) : origin.Legible := by
  have hat : Solid '@' := by decide
  have hcolon : Solid ':' := by decide
  obtain ⟨hname, hsecret⟩ := allSolid_userInfo huser
  have hinfo : AllSolid origin.userInfoText := by
    unfold userInfoText
    split
    · rename_i password hpassword
      simp [hname, hsecret password hpassword, hat, hcolon]
    · split <;> simp [hname, hat]
  have hport : AllSolid origin.portText := by
    unfold portText
    split <;> simp [allSolid_ofNat, hcolon]
  refine ⟨?_, by simp [authority, hinfo, hport, Host.allSolid_of_parse hhost]⟩
  simp [authority, Host.ne_nil_of_parse hhost]

/-- The parts of a URL that is read are read one by one. -/
theorem exists_parts_of_readWeb {scheme : Scheme} {text : List Char} {url : Url}
    (h : readWeb scheme text = .ok url) :
    ∃ info host port number path,
      readUserInfo info = (url.origin.user, url.origin.password) ∧
      Host.parse host = .ok url.origin.host ∧ readPort port = .ok number ∧
      url.origin.port = number.filter (· != url.origin.scheme.defaultPort) ∧
      url.path = Path.parse path := by
  unfold readWeb at h
  obtain ⟨⟨user, password, host, port⟩, hauthority, h⟩ := bind_eq_ok_iff.mp h
  dsimp only at h
  split at h
  · cases h
  · obtain ⟨parsed, hhost, h⟩ := bind_eq_ok_iff.mp h
    obtain ⟨number, hnumber, h⟩ := bind_eq_ok_iff.mp h
    cases h
    unfold readAuthority at hauthority
    dsimp only at hauthority
    split at hauthority
    · cases hauthority
    · cases hauthority
      exact ⟨_, _, _, number, _, rfl, hhost, hnumber, rfl, rfl⟩

/-- A URL that was read can be read again: its authority is legible and its path is settled. -/
theorem legible_of_readWeb {scheme : Scheme} {text : List Char} {url : Url}
    (h : readWeb scheme text = .ok url) : url.origin.Legible ∧ Path.Settled url.path := by
  obtain ⟨info, host, _, _, path, huser, hhost, -, -, hpath⟩ := exists_parts_of_readWeb h
  exact ⟨Origin.legible_of_parts huser hhost, hpath ▸ Path.settled_parse path⟩

end Url

end Stimulus
