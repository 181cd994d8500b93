import RemoteScreen.Proofs.Log.Handlers
import RemoteScreen.Proofs.Number.Digits

/-! The level that a text gives. A text that shows nothing but characters with a digit value passes
for a number; where it is no numeral it gives no level at all, and a setup that is asked for it
fails. -/
namespace RemoteScreen
namespace Level

/-- The level that a text is meant to give, white space around it left out: the number that its
digits stand for, the level that it names, or `info`. -/
def intended (s : String) : Level :=
  if Number.Numeral (Text.strip s).toList then
    number (Number.numeralValue (Text.strip s).toList)
  else ((names.lookup (Text.upper (Text.strip s))).map number).getD info

/-- A text whose characters all have a digit value, and that is no numeral: one of the characters is
no decimal digit, or there are too many. -/
structure Deceptive (s : String) : Prop where
  shown : (Text.strip s).toList ≠ []
  digits : ∀ c ∈ (Text.strip s).toList, Text.isDigitLike c = true
  broken : ¬Number.Numeral (Text.strip s).toList

/-- What passes for a number is decided in upper case, which makes no difference. -/
theorem upper_shows_iff {s : String} :
    (Text.upper s ≠ "" ∧ (Text.upper s).toList.all Text.isDigitLike = true) ↔
      s.toList ≠ [] ∧ ∀ c ∈ s.toList, Text.isDigitLike c = true := by
  have hempty : s.toList ≠ [] ↔ s ≠ "" := by simp
  rw [List.all_eq_true, hempty]
  constructor
  · rintro ⟨hne, hall⟩
    have hall := Text.isDigitLike_of_upper hall
    rw [Text.upper_of_isDigitLike hall] at hne
    exact ⟨hne, hall⟩
  · rintro ⟨hne, hall⟩
    rw [Text.upper_of_isDigitLike hall]
    exact ⟨hne, hall⟩

theorem ofText_of_deceptive {s : String} (h : Deceptive s) :
    ∃ e, Number.whole (Text.strip s) = .error e ∧ ofText s = .error e := by
  have hwhole : ∃ e, Number.whole (Text.strip s) = .error e := by
    cases he : Number.whole (Text.strip s) with
    | error e => exact ⟨e, rfl⟩
    | ok n => exact absurd (Number.numeral_of_whole h.digits he) h.broken
  obtain ⟨e, he⟩ := hwhole
  refine ⟨e, he, ?_⟩
  rw [ofText, if_pos (upper_shows_iff.2 ⟨h.shown, h.digits⟩), Text.upper_of_isDigitLike h.digits, he]
  rfl

theorem ofText_eq_intended {s : String} (h : ¬Deceptive s) : ofText s = .ok (intended s) := by
  unfold ofText intended
  by_cases hnumeral : Number.Numeral (Text.strip s).toList
  · have hlike (c : Char) (hc : c ∈ (Text.strip s).toList) : Text.isDigitLike c = true :=
      Text.isDigitLike_of_isDecimalDigit (hnumeral.2.1 c hc)
    rw [if_pos hnumeral, if_pos (upper_shows_iff.2 ⟨hnumeral.1, hlike⟩),
      Text.upper_of_isDigitLike hlike, Number.whole_of_numeral hnumeral]
    rfl
  · rw [if_neg hnumeral, if_neg]
    intro hshows
    obtain ⟨hshown, hdigits⟩ := upper_shows_iff.1 hshows
    exact h ⟨hshown, hdigits, hnumeral⟩

/-- Of the values that a level may be given as, texts alone can fail to give one. -/
theorem ofValue_eq_error {v : Value} {f : Failure} (h : ofValue v = .error f) :
    ∃ s e, v = .text s ∧ ofText s = .error e := by
  unfold ofValue at h
  split at h
  case h_3 s =>
    cases he : ofText s with
    | error e => exact ⟨s, e, rfl, he⟩
    | ok level =>
      rw [he] at h
      cases h
  all_goals cases h

end Level

namespace Log

/-- Where a setup looks for its level. -/
def levelSetting (settings : Option Settings) : Value :=
  Settings.first settings ["logging.level", "log_level"] (.text "INFO")

/-- Nothing but the level can keep settings from making up a demand. -/
theorem Demand.ofSettings_cases (settings : Option Settings) :
    (∃ e, Level.ofValue (levelSetting settings) = .error e ∧ Demand.ofSettings settings = .error e) ∨
    ∃ d, Level.ofValue (levelSetting settings) = .ok d.level ∧ Demand.ofSettings settings = .ok d := by
  unfold Demand.ofSettings
  change (∃ e, _ ∧ (Level.ofValue (levelSetting settings) >>= _) = _) ∨
    ∃ d : Demand, _ ∧ (Level.ofValue (levelSetting settings) >>= _) = _
  cases Level.ofValue (levelSetting settings) with
  | error e => exact .inl ⟨e, rfl, rfl⟩
  | ok level => exact .inr ⟨_, rfl, rfl⟩

/-- A demand fails for its style or for its file. -/
theorem Setup.apply_ne_value (s : Setup) (d : Demand) (e : ValueError) :
    (s.apply d).2 ≠ .error (.value e) := by
  unfold Setup.apply
  split
  · exact nofun
  split
  · exact nofun
  · rcases s.installAll_course d with ⟨-, h⟩ | ⟨path, f, -, -, h⟩ | ⟨path, t, -, -, h⟩ <;>
      rw [h] <;> exact nofun

end Log

namespace Level

/-- What becomes of every text that a level may be given as, and of the setups that are given it: a
text gives the level that it is meant to give, and no setup fails for its level, unless the text is
deceptive. Then there is no level, and the setup fails before it has changed anything. -/
theorem ofText_honest (s : String) (x : Log.Setup) (settings : Option Settings) :
    (¬Deceptive s → ofText s = .ok (intended s)) ∧
    (Deceptive s → ∃ e, Number.whole (Text.strip s) = .error e ∧ ofText s = .error e) ∧
    ((∀ s, Log.levelSetting settings = .text s → ¬Deceptive s) →
      ∀ e, (x.init settings).2 ≠ .error (.value e)) ∧
    (Log.levelSetting settings = .text s → Deceptive s →
      ∃ e, x.init settings = (x, .error (.value (.numeral e)))) := by
  refine ⟨ofText_eq_intended, ofText_of_deceptive, fun hhonest e => ?_, fun hs hdeceptive => ?_⟩
  · rcases Log.Demand.ofSettings_cases settings with ⟨f, hf, hd⟩ | ⟨d, hlevel, hd⟩
    · obtain ⟨s, e', hs, he⟩ := ofValue_eq_error hf
      rw [ofText_eq_intended (hhonest s hs)] at he
      cases he
    · rw [Log.Setup.init_of_demand hd]
      exact x.apply_ne_value d e
  · obtain ⟨e, -, he⟩ := ofText_of_deceptive hdeceptive
    refine ⟨e, ?_⟩
    have hlevel : ofValue (Log.levelSetting settings) = .error (.value (.numeral e)) := by
      rw [hs, ofValue, he]
      rfl
    rcases Log.Demand.ofSettings_cases settings with ⟨f, hf, hd⟩ | ⟨d, hd, -⟩
    · rw [hlevel] at hf
      obtain rfl := Except.error.inj hf
      rw [Log.Setup.init, hd]
    · rw [hlevel] at hd
      cases hd

theorem deceptive_raisedTwo : Deceptive "²" :=
  ⟨by decide +kernel, List.all_eq_true.1 (by decide +kernel), by decide +kernel⟩

/-- A text that names a level, Arabic digits between blanks, and a raised two. -/
theorem ofText_honest_raisedTwo :
    (¬Deceptive " ٣٠ " ∧ ofText " ٣٠ " = .ok (number 30)) ∧
    (¬Deceptive "warning" ∧ ofText "warning" = .ok (number 30) ∧
      ∀ e, (({} : Log.Setup).init (some ⟨some [("log_level", .text "warning")]⟩)).2 ≠
        .error (.value e)) ∧
    Deceptive "²" ∧ (∃ e, Number.whole (Text.strip "²") = .error e ∧ ofText "²" = .error e) ∧
    ∃ e, ({} : Log.Setup).init (some ⟨some [("log_level", .text "²")]⟩) =
      ({}, .error (.value (.numeral e))) := by
  have hdigits : ¬Deceptive " ٣٠ " := fun h => h.broken (by decide +kernel)
  have hname : ¬Deceptive "warning" := fun h =>
    absurd (h.digits 'w' (by decide +kernel)) (by decide +kernel)
  have h30 : intended " ٣٠ " = number 30 := by decide +kernel
  have hwarning : intended "warning" = number 30 := by decide +kernel
  obtain ⟨hhonest, -, hsetup, -⟩ :=
    ofText_honest "warning" {} (some ⟨some [("log_level", .text "warning")]⟩)
  obtain ⟨-, hbroken, -, hfails⟩ := ofText_honest "²" {} (some ⟨some [("log_level", .text "²")]⟩)
  refine ⟨⟨hdigits, h30 ▸ (ofText_honest " ٣٠ " {} none).1 hdigits⟩,
    ⟨hname, hwarning ▸ hhonest hname, hsetup fun s hs => ?_⟩, deceptive_raisedTwo,
    hbroken deceptive_raisedTwo, hfails rfl deceptive_raisedTwo⟩
  obtain rfl : "warning" = s := Value.text.inj hs
  exact hname

/-- A raised two is neither a numeral nor the name of a level, and so it is meant to give `info`. It
gives no level, and breaks the setup where the environment asks for it. -/
theorem raisedTwo_breaks_setup :
    (¬∀ s, ofText s = .ok (intended s)) ∧
    intended "²" = info ∧ ofText "²" = .error (.notWhole "²") ∧
    ({} : Log.Setup).init (some (Settings.fromEnvironment [("PYSDUI_LOG_LEVEL", "²")])) =
      ({}, .error (.value (.numeral (.notWhole "²")))) := by
  have htwo : ofText "²" = .error (.notWhole "²") := by decide +kernel
  refine ⟨fun h => ?_, by decide +kernel, htwo, rfl⟩
  rw [h "²"] at htwo
  cases htwo

end Level
end RemoteScreen
