import Mathlib.Data.List.TakeWhile
import RemoteScreen.Text.Blank

/-! Texts trimmed at both ends. -/
namespace RemoteScreen
namespace Text

/-- Nothing is trimmed off a text none of whose characters may be dropped. -/
theorem trimBy_eq_self {drops : Char → Bool} {cs : List Char} (h : ∀ c ∈ cs, drops c = false) :
    trimBy drops cs = cs := by
  have hkept {ds : List Char} (hds : ∀ c ∈ ds, drops c = false) : ds.dropWhile drops = ds := by
    cases ds with
    | nil => rfl
    | cons d ds => exact List.dropWhile_cons_of_neg (by simp [hds d List.mem_cons_self])
  rw [trimBy, hkept h, hkept fun c hc => h c (List.mem_reverse.1 hc), List.reverse_reverse]

theorem trim_eq_nil_iff (cs : List Char) : trim cs = [] ↔ ∀ c ∈ cs, isBlank c = true := by
  rw [trim, trimBy, List.reverse_eq_nil_iff, List.dropWhile_eq_nil_iff]
  constructor
  · intro h c hc
    rw [← List.takeWhile_append_dropWhile (p := isBlank) (l := cs), List.mem_append] at hc
    rcases hc with hc | hc
    · exact List.mem_takeWhile_imp hc
    · exact h c (List.mem_reverse.2 hc)
  · intro h c hc
    exact h c ((List.dropWhile_sublist isBlank).subset (List.mem_reverse.1 hc))

theorem strip_eq_empty_iff (s : String) : strip s = "" ↔ allBlank s = true := by
  rw [← String.toList_inj, toList_strip, allBlank, List.all_eq_true]
  exact trim_eq_nil_iff s.toList

end Text
end RemoteScreen
