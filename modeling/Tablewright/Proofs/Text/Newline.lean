/-
Line ends that are folded.

Reading a file folds every carriage return, so in what is read there is none, neither in the text nor
in its encoding; and where there was none before, nothing is folded.
-/
import Tablewright.Proofs.Text.Utf8
import Tablewright.Text.Blank

set_option autoImplicit false

namespace Tablewright.Text

/-- Nothing is folded where no carriage return stands. -/
theorem foldNewlines_of_not_mem {t : Text} (h : CodePoint.ofChar '\r' ∉ t) :
    foldNewlines t = t := by
  induction t with
  | nil => rfl
  | cons c r ih =>
    have hc : c.val ≠ 0xD := fun hval => by
      obtain ⟨n, hn⟩ := c
      exact h (by simp only at hval; subst hval; exact List.mem_cons_self)
    rw [foldNewlines.eq_def]
    dsimp only
    rw [if_neg hc, ih fun hr => h (List.mem_cons_of_mem c hr)]

/-- What stands in a folded text stood there before, or it is a line feed. -/
theorem mem_foldNewlines {t : Text} {c : CodePoint} (h : c ∈ t.foldNewlines) :
    c = CodePoint.ofChar '\n' ∨ c ∈ t := by
  fun_induction foldNewlines t with
  | case1 => cases h
  | case2 a _ d s _ ih =>
    rcases List.mem_cons.mp h with rfl | hs
    · exact .inr (List.mem_cons_of_mem a List.mem_cons_self)
    · exact (ih hs).imp_right fun hc => List.mem_cons_of_mem a (List.mem_cons_of_mem d hc)
  | case3 a _ d s _ ih =>
    rcases List.mem_cons.mp h with rfl | hs
    · exact .inl rfl
    · exact (ih hs).imp_right fun hc => List.mem_cons_of_mem a hc
  | case4 => exact .inl (List.mem_singleton.mp h)
  | case5 d r _ ih =>
    rcases List.mem_cons.mp h with rfl | hr
    · exact .inr List.mem_cons_self
    · exact (ih hr).imp_right fun hc => List.mem_cons_of_mem d hc

/-- Folding keeps an encoding. -/
theorem HasEncoding.foldNewlines {t : Text} (h : t.HasEncoding) : t.foldNewlines.HasEncoding := by
  rw [hasEncoding_iff] at h ⊢
  intro c hc
  rcases mem_foldNewlines hc with rfl | hmem
  · decide
  · exact h c hmem

/-- No carriage return is left. -/
theorem ne_return_of_mem_foldNewlines {t : Text} {c : CodePoint} (h : c ∈ t.foldNewlines) :
    c.val ≠ 0xD := by
  have hfeed : (CodePoint.ofChar '\n').val ≠ 0xD := by decide
  fun_induction foldNewlines t with
  | case1 => cases h
  | case2 _ _ d s hd ih =>
    rcases List.mem_cons.mp h with rfl | hs
    · omega
    · exact ih hs
  | case3 _ _ d s _ ih =>
    rcases List.mem_cons.mp h with rfl | hs
    · exact hfeed
    · exact ih hs
  | case4 =>
    obtain rfl := List.mem_singleton.mp h
    exact hfeed
  | case5 d r hd ih =>
    rcases List.mem_cons.mp h with rfl | hr
    · exact hd
    · exact ih hr

/-- No carriage return stands in the encoding of a text that was folded. -/
theorem not_mem_of_foldNewlines {t : Text} {b : Bytes} (h : t.foldNewlines.utf8? = some b) :
    0x0D ∉ b := by
  intro hmem
  obtain ⟨c, hc, hval⟩ := (mem_utf8?_iff h (by decide)).mp hmem
  exact ne_return_of_mem_foldNewlines hc hval

/-- Nothing is folded in a text whose encoding holds no carriage return. -/
theorem foldNewlines_of_bytes {t : Text} {b : Bytes} (h : t.utf8? = some b) (hb : 0x0D ∉ b) :
    t.foldNewlines = t :=
  foldNewlines_of_not_mem fun hmem => hb ((mem_utf8?_iff h (by decide)).mpr ⟨_, hmem, rfl⟩)

end Tablewright.Text
