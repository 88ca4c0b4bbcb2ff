import RadioText.Framing

/-! How long the pieces are that text is cut to. A screen is always full, and a frame is at most as
long as its buffer. -/
namespace RadioText

theorem length_of_mem_psScreens {t screen : Text} (h : screen ∈ psScreens t) :
    screen.length = psSize := by
  induction t using psScreens.induct with
  | case1 t hle =>
    rw [psScreens, if_pos hle] at h
    rw [List.mem_singleton.1 h, List.length_append, List.length_replicate]
    exact Nat.add_sub_cancel' hle
  | case2 t hlong ih =>
    rw [psScreens, if_neg hlong] at h
    obtain rfl | hrest := List.mem_cons.1 h
    · exact List.length_take_of_le (Nat.le_of_not_le hlong)
    · exact ih hrest

/-- The end mark counts, if there is room for it. -/
theorem length_rtFrame (t : Text) (size : Nat) :
    (rtFrame t size).length = min (t.length + 1) size := by
  rw [rtFrame]
  split
  · rw [List.length_append, List.length_singleton]
    omega
  · rw [List.length_take]
    omega

end RadioText
