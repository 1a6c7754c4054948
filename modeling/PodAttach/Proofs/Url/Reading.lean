import Mathlib.Data.List.DropRight
import PodAttach.Proofs.Text.Cutting
import PodAttach.Url.Basic

/-!
# How a URL is read

What reading does to the ends of a text, where it finds the path and the query, and what of an authority it passes on to
the path: nothing. A text that starts with one slash is a path on the page it is read on.
-/

namespace PodAttach

namespace Text

section

variable {α : Type} {p : α → Bool} {xs : List α}

theorem rdropWhile_append (hne : xs ≠ []) (hlast : ∀ x ∈ xs.getLast?, p x = false) (ys : List α) :
    (xs ++ ys).rdropWhile p = xs ++ ys.rdropWhile p := by
  obtain ⟨before, x, rfl⟩ := List.eq_nil_or_concat xs |>.resolve_left hne
  have hx : p x = false := hlast x (by simp)
  have hstop : (x :: before.reverse).dropWhile p = x :: before.reverse := by
    rw [List.dropWhile_cons, hx, if_neg Bool.false_ne_true]
  rw [List.rdropWhile, List.rdropWhile, List.reverse_append, List.dropWhile_append, List.concat_eq_append,
    List.reverse_append, List.reverse_singleton, List.singleton_append, hstop]
  split
  · next hempty =>
    rw [List.isEmpty_iff.1 hempty]
    simp
  · simp

/-- Stripping stops at the first and at the last element that is to stay. -/
theorem strip_append (hne : xs ≠ []) (hhead : ∀ x ∈ xs.head?, p x = false) (hlast : ∀ x ∈ xs.getLast?, p x = false)
    (ys : List α) : strip p (xs ++ ys) = xs ++ ys.rdropWhile p := by
  obtain ⟨x, more, rfl⟩ := List.exists_cons_of_ne_nil hne
  have hfront : ((x :: more) ++ ys).dropWhile p = (x :: more) ++ ys := by
    rw [List.cons_append, List.dropWhile_cons, hhead x rfl, if_neg Bool.false_ne_true]
  rw [strip, hfront]
  exact rdropWhile_append hne hlast ys

theorem mem_of_mem_strip {x : α} (h : x ∈ strip p xs) : x ∈ xs :=
  List.dropWhile_subset p ((List.rdropWhile_prefix p (xs.dropWhile p)).subset h)

/-- What is left begins with an element that stays. -/
theorem eq_false_of_mem_head?_strip : ∀ x ∈ (strip p xs).head?, p x = false := by
  intro x hx
  obtain ⟨after, hprefix⟩ : strip p xs <+: xs.dropWhile p := List.rdropWhile_prefix p (xs.dropWhile p)
  obtain ⟨more, hmore⟩ := List.head?_eq_some_iff.1 hx
  have hhead : (xs.dropWhile p).head? = some x := by rw [← hprefix, hmore, List.cons_append, List.head?_cons]
  have hnot := List.head?_dropWhile_not p xs
  rw [hhead] at hnot
  simpa using hnot

end

end Text

namespace Url

open Text

/-! ### The ends of a text -/

theorem filter_eq_self_of_isBlank {cs : List Char} (h : ∀ c ∈ cs, isBlank c = false) :
    cs.filter (fun c => c != '\t' && c != '\n' && c != '\r') = cs := by
  rw [List.filter_eq_self]
  intro c hc
  have hne : ∀ d, isBlank d = true → (c != d) = true := by
    intro d hd
    rw [bne_iff_ne]
    rintro rfl
    rw [h c hc] at hd
    contradiction
  rw [hne '\t' (by decide), hne '\n' (by decide), hne '\r' (by decide)]
  rfl

/-- Between two visible ends, cleaning only drops line breaks and tabs. -/
theorem clean_eq_filter {cs : List Char} (hhead : ∀ c ∈ cs.head?, ¬c ≤ ' ') (hlast : ∀ c ∈ cs.getLast?, ¬c ≤ ' ') :
    clean cs = cs.filter fun c => c != '\t' && c != '\n' && c != '\r' := by
  by_cases hne : cs = []
  · rw [hne]
    rfl
  · have hstrip := strip_append (p := (· ≤ ' ')) hne (fun c hc => by simpa using hhead c hc)
      (fun c hc => by simpa using hlast c hc) []
    rw [List.rdropWhile_nil, List.append_nil] at hstrip
    rw [clean, hstrip]

/-- Neither a blank nor a control. -/
structure IsVisible (c : Char) : Prop where
  isBlank_eq : isBlank c = false
  not_le : ¬c ≤ ' '

/-- What is left of the end of a text that is trimmed and cleaned. -/
def settled (cs : List Char) : List Char :=
  ((cs.rdropWhile isBlank).rdropWhile (· ≤ ' ')).filter fun c => c != '\t' && c != '\n' && c != '\r'

/-- What stands in front of a text stays as it is if it holds no blank, and no control at its ends. -/
theorem clean_trim_of_ends {s : String} {cs rest : List Char} (hs : s.toList = cs ++ rest) (hne : cs ≠ [])
    (hblank : ∀ c ∈ cs, isBlank c = false) (hhead : ∀ c ∈ cs.head?, ¬c ≤ ' ') (hlast : ∀ c ∈ cs.getLast?, ¬c ≤ ' ') :
    clean (trim s).toList = cs ++ settled rest := by
  have htrim := strip_append (p := isBlank) hne (fun c hc => hblank c (List.mem_of_mem_head? hc))
    (fun c hc => hblank c (List.mem_of_mem_getLast? hc)) rest
  have hclean := strip_append (p := (· ≤ ' ')) hne (fun c hc => by simpa using hhead c hc)
    (fun c hc => by simpa using hlast c hc) (rest.rdropWhile isBlank)
  rw [trim, String.toList_ofList, hs, htrim, clean, hclean, List.filter_append, filter_eq_self_of_isBlank hblank]
  rfl

/-- Visible characters in front of a text stay as they are. -/
theorem clean_trim {s : String} {cs rest : List Char} (hs : s.toList = cs ++ rest) (hne : cs ≠ [])
    (h : ∀ c ∈ cs, IsVisible c) : clean (trim s).toList = cs ++ settled rest :=
  clean_trim_of_ends hs hne (fun c hc => (h c hc).isBlank_eq) (fun c hc => (h c (List.mem_of_mem_head? hc)).not_le)
    fun c hc => (h c (List.mem_of_mem_getLast? hc)).not_le

theorem settled_prefix (cs : List Char) : settled cs <+: cs.filter fun c => c != '\t' && c != '\n' && c != '\r' :=
  ((List.rdropWhile_prefix _ _).trans (List.rdropWhile_prefix _ _)).filter _

/-! ### Path and query -/

section

variable {path : List Char} (hpath : ∀ c ∈ path, c ≠ '?' ∧ c ≠ '#') (scheme : Scheme) (rest : List Char)
include hpath

theorem pathText_append : pathText (path ++ '?' :: rest) = path := by
  rw [pathText, List.takeWhile_append_of_pos fun c hc => by simpa using hpath c hc]
  simp

theorem tail_append :
    (tail scheme (path ++ '?' :: rest)).1 =
      some (String.ofList (percentEncode (if scheme.isSpecial then specialQuerySet else querySet)
        (rest.takeWhile (· != '#')))) := by
  have hrest : (path ++ '?' :: rest).dropWhile (fun c => c != '?' && c != '#') = '?' :: rest := by
    rw [List.dropWhile_append_of_pos fun c hc => by simpa using hpath c hc]
    simp
  simp only [tail, hrest]

end

theorem rootedPath_cons {scheme : Scheme} {c : Char} (hc : scheme.isSlash c = true) (below : List (List Char))
    (cs : List Char) :
    rootedPath scheme below (c :: cs) = .segments ((segmentsOn scheme below cs).map String.ofList) := by
  rw [rootedPath, if_pos hc]

/-- A text that starts with one slash is a path from the root of the page that it is read on. -/
theorem readOn_root {base : Url} {s : String} {cs : List Char} (hclean : clean s.toList = '/' :: cs)
    (hfirst : ∀ c ∈ cs.head?, base.scheme.isSlash c = false) :
    readOn base s = .ok { base with
      path := rootedPath base.scheme [] (pathText ('/' :: cs))
      query := (tail base.scheme ('/' :: cs)).1
      fragment := (tail base.scheme ('/' :: cs)).2 } := by
  have hscheme : cutScheme? ('/' :: cs) = none := rfl
  have hroot : base.scheme.isSlash '/' = true := rfl
  have hsecond : ¬(cs.take 1).any base.scheme.isSlash = true := by
    cases cs with
    | nil => simp
    | cons c more => simp [hfirst c rfl]
  simp only [readOn, hclean, hscheme, follow]
  split
  · contradiction
  · next heq => simp at heq
  · next heq => simp at heq
  · next heq =>
    obtain ⟨rfl, rfl⟩ := List.cons.inj heq
    rw [if_pos hroot, if_neg hsecond]

/-! ### The path behind an authority -/

/-- Whatever the reading yields satisfies `P`; it may as well fail. -/
def Yields {α : Type} (P : α → Prop) (reading : Except Fault α) : Prop := ∀ a, reading = .ok a → P a

section

variable {α β : Type} {P : β → Prop}

theorem yields_pure (b : β) : Yields P (pure b) ↔ P b :=
  ⟨fun h => h b rfl, fun h _ hb => Except.ok.inj hb ▸ h⟩

theorem yields_throw (fault : Fault) : Yields P (throw fault) := fun _ h => nomatch h

theorem yields_bind {reading : Except Fault α} {f : α → Except Fault β} (h : ∀ a, reading = .ok a → Yields P (f a)) :
    Yields P (reading >>= f) := by
  cases reading with
  | error fault => exact yields_throw fault
  | ok a => exact h a rfl

theorem yields_ite {p : Prop} [Decidable p] {reading other : Except Fault β} (h : Yields P reading)
    (hother : Yields P other) : Yields P (if p then reading else other) := by
  split
  · exact h
  · exact hother

end

theorem backslash_not_mem_cutCredentials {cs : List Char} (h : '\\' ∉ cs) : '\\' ∉ (cutCredentials cs).2 := by
  unfold cutCredentials
  split
  · intro hmem
    have hsub := List.takeWhile_subset _ (List.mem_reverse.1 hmem)
    exact h (List.mem_reverse.1 hsub)
  · exact h

section

variable {scheme : Scheme} (hspecial : scheme.isSpecial = true)
include hspecial

theorem endsAuthority_backslash : scheme.endsAuthority '\\' = true := by
  rw [Scheme.endsAuthority, Scheme.isSlash, hspecial]
  rfl

/-- Without a backslash among them, the characters of a host and a port keep nothing of what stands behind them. -/
theorem rest_of_readHostPort {cs rest : List Char} (hcs : '\\' ∉ cs) :
    Yields (fun authority => authority.rest = rest) (readHostPort scheme cs rest) := by
  have hport : ∀ (host : Host) {c : Char} {portChars : List Char}, cs.drop (hostText false cs).length = c :: portChars →
      Yields (fun authority : Authority => authority.rest = rest) (do
        let port ← readPort scheme (portChars.takeWhile (· != '\\'))
        return ⟨host, port, portChars.dropWhile (· != '\\') ++ rest⟩) := by
    intro host c portChars hdrop
    have hnot : '\\' ∉ portChars := fun hmem => hcs (List.mem_of_mem_drop (hdrop ▸ List.mem_cons_of_mem c hmem))
    rw [Text.dropWhile_ne_eq_nil hnot]
    exact yields_bind fun port _ => (yields_pure _).2 rfl
  simp only [readHostPort, hspecial, Bool.true_and, if_true]
  refine yields_ite (yields_bind fun _ _ => ?_) ?_
  all_goals
    refine yields_bind fun host _ => ?_
    split
    · exact (yields_pure _).2 rfl
    · next hdrop => exact yields_ite (yields_bind fun _ _ => hport host hdrop) (hport host hdrop)

theorem rest_of_read (cs : List Char) :
    Yields (fun authority => authority.rest = cs.dropWhile (!scheme.endsAuthority ·)) (Authority.read scheme cs) := by
  have htext : '\\' ∉ cs.takeWhile (!scheme.endsAuthority ·) := by
    intro hmem
    have hends := List.mem_takeWhile_imp hmem
    rw [endsAuthority_backslash hspecial] at hends
    contradiction
  have hrest := backslash_not_mem_cutCredentials htext
  unfold Authority.read
  dsimp only
  split
  · next heq =>
    rw [heq] at hrest
    exact rest_of_readHostPort hspecial hrest
  · next credentials hostPort heq =>
    rw [heq] at hrest
    have hread : Yields (fun authority => authority.rest = cs.dropWhile (!scheme.endsAuthority ·)) (do
        let authority ← readHostPort scheme hostPort (cs.dropWhile (!scheme.endsAuthority ·))
        if authority.host.isEmpty && !credentials.isEmpty && credentials != [':'] then throw .emptyHost
        return authority) := by
      refine yields_bind fun authority hauthority => ?_
      have hkept := rest_of_readHostPort hspecial hrest authority hauthority
      exact yields_ite (yields_bind fun _ _ => (yields_pure _).2 hkept) ((yields_pure _).2 hkept)
    exact yields_ite (yields_bind fun _ _ => hread) hread

/-- The path begins where the authority ends. -/
theorem path_of_onAuthority (cs : List Char) :
    Yields (fun url => url.scheme = scheme ∧
      url.path = rootedPath scheme [] (pathText (cs.dropWhile (!scheme.endsAuthority ·)))) (onAuthority scheme cs) := by
  unfold onAuthority
  refine yields_bind fun authority hauthority => ?_
  rw [rest_of_read hspecial cs authority hauthority]
  exact (yields_pure _).2 ⟨rfl, rfl⟩

end

end Url

end PodAttach
