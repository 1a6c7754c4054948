import PodAttach.Proofs.Url.Hosts
import PodAttach.Proofs.Url.Names

/-!
# What a URL is written with

A URL reader takes any text, but of what does not print in ASCII it keeps nothing as it is: a scheme consists of letters,
digits and a few signs, a host is brought into ASCII, and in a path, a query and a fragment all else is percent-encoded.
So a URL that was read is written in printable ASCII, from its scheme to its fragment.
-/

namespace PodAttach.Url

open Text

/-- A printable character of ASCII, the space included. -/
def PrintsInAscii (c : Char) : Prop := 0x20 ≤ c.toNat ∧ c.toNat < 0x7f

instance : DecidablePred PrintsInAscii := fun c => inferInstanceAs (Decidable (0x20 ≤ c.toNat ∧ c.toNat < 0x7f))

def IsAsciiText (s : String) : Prop := ∀ c ∈ s.toList, PrintsInAscii c

instance : DecidablePred IsAsciiText := fun s => List.decidableBAll _ s.toList

theorem isAsciiText_append {s t : String} : IsAsciiText (s ++ t) ↔ IsAsciiText s ∧ IsAsciiText t := by
  rw [IsAsciiText, String.toList_append, List.forall_mem_append]
  rfl

theorem isAsciiText_ofList {cs : List Char} : IsAsciiText (String.ofList cs) ↔ ∀ c ∈ cs, PrintsInAscii c := by
  rw [IsAsciiText, String.toList_ofList]

theorem isAsciiText_empty : IsAsciiText "" := by decide

theorem isAsciiText_join {texts : List String} (h : ∀ text ∈ texts, IsAsciiText text) :
    IsAsciiText (String.join texts) := by
  induction texts with
  | nil => exact isAsciiText_empty
  | cons text texts ih =>
    rw [List.forall_mem_cons] at h
    rw [String.join_cons, isAsciiText_append]
    exact ⟨h.1, ih h.2⟩

theorem printsInAscii_of_isAlphanum {c : Char} (h : c.isAlphanum = true) : PrintsInAscii c := by
  have hall : ∀ n < 128, (Char.ofNat n).isAlphanum = true → PrintsInAscii (Char.ofNat n) := by decide
  have hfacts := hall c.toNat (toNat_lt_of_isAlphanum h)
  rw [Char.ofNat_toNat] at hfacts
  exact hfacts h

theorem printsInAscii_toLower {c : Char} (h : PrintsInAscii c) : PrintsInAscii c.toLower := by
  have hall : ∀ n < 0x7f, 0x20 ≤ n → PrintsInAscii (Char.ofNat n).toLower := by decide
  have hlower := hall c.toNat h.2 h.1
  rwa [Char.ofNat_toNat] at hlower

/-! ### Percent encoding -/

section

variable {set : Char → Bool} (hset : ∀ c, controlSet c = true → set c = true)
include hset

/-- Where controls and everything beyond ASCII are encoded, only printable ASCII is written. -/
theorem printsInAscii_percentEncode (cs : List Char) : ∀ c ∈ percentEncode set cs, PrintsInAscii c := by
  have hsigns : ∀ c ∈ "%0123456789ABCDEF".toList, PrintsInAscii c := (by decide : IsAsciiText "%0123456789ABCDEF")
  intro c hc
  obtain ⟨d, -, hd⟩ := List.mem_flatMap.1 hc
  split at hd
  · obtain ⟨b, -, hb⟩ := List.mem_flatMap.1 hd
    exact hsigns c (mem_of_mem_percentByte hb)
  · next hkept =>
    obtain rfl := List.mem_singleton.1 hd
    have hcontrol : controlSet c = false := Bool.eq_false_iff.2 fun hcontrol => hkept (hset c hcontrol)
    simp only [controlSet, Bool.or_eq_false_iff, decide_eq_false_iff_not] at hcontrol
    exact ⟨by omega, by omega⟩

end

theorem fragmentSet_of_controlSet (c : Char) (h : controlSet c = true) : fragmentSet c = true := by
  rw [fragmentSet, h, Bool.true_or]

theorem pathSet_of_controlSet (c : Char) (h : controlSet c = true) : pathSet c = true := by
  rw [pathSet, fragmentSet_of_controlSet c h, Bool.true_or]

theorem querySet_of_controlSet (c : Char) (h : controlSet c = true) : querySet c = true := by
  rw [querySet, h, Bool.true_or]

theorem specialQuerySet_of_controlSet (c : Char) (h : controlSet c = true) : specialQuerySet c = true := by
  rw [specialQuerySet, querySet_of_controlSet c h, Bool.true_or]

/-- The query and the fragment of a text. -/
theorem isAsciiText_tail (scheme : Scheme) (cs : List Char) :
    (∀ text ∈ (tail scheme cs).1, IsAsciiText text) ∧ ∀ text ∈ (tail scheme cs).2, IsAsciiText text := by
  have hset : ∀ c, controlSet c = true → (if scheme.isSpecial then specialQuerySet else querySet) c = true := by
    intro c hc
    split
    · exact specialQuerySet_of_controlSet c hc
    · exact querySet_of_controlSet c hc
  have hquery : ∀ text ∈ (tail scheme cs).1, IsAsciiText text := by
    intro text htext
    unfold tail at htext
    dsimp only at htext
    split at htext
    · obtain rfl := Option.some.inj htext
      exact isAsciiText_ofList.2 (printsInAscii_percentEncode hset _)
    · contradiction
  have hfragment : (tail scheme cs).2 = none ∨
      ∃ cs', (tail scheme cs).2 = some (String.ofList (percentEncode fragmentSet cs')) := by
    unfold tail
    dsimp only
    split
    all_goals
      dsimp only
      split
      · exact .inr ⟨_, rfl⟩
      · exact .inl rfl
  refine ⟨hquery, fun text htext => ?_⟩
  rcases hfragment with hnone | ⟨cs', hsome⟩
  · rw [hnone] at htext
    contradiction
  · rw [hsome] at htext
    obtain rfl := Option.some.inj htext
    exact isAsciiText_ofList.2 (printsInAscii_percentEncode fragmentSet_of_controlSet cs')

/-! ### Paths -/

/-- A drive is written with a letter and a colon. -/
theorem printsInAscii_keepSegment (scheme : Scheme) (below : List (List Char)) (segment : List Char) :
    ∀ c ∈ keepSegment scheme below segment, PrintsInAscii c := by
  unfold keepSegment
  split
  · next hfile =>
    simp only [Bool.and_eq_true] at hfile
    have hdrive := hfile.2
    unfold isDrive at hdrive
    split at hdrive
    · next letter sign =>
      simp only [Bool.and_eq_true] at hdrive
      have hletter : letter.isAlphanum = true := by rw [Char.isAlphanum, hdrive.1, Bool.true_or]
      rw [List.take_succ_cons, List.take_zero, List.singleton_append, List.forall_mem_cons, List.forall_mem_singleton]
      exact ⟨printsInAscii_of_isAlphanum hletter, by decide⟩
    · contradiction
  · exact printsInAscii_percentEncode pathSet_of_controlSet segment

theorem printsInAscii_segmentsOn (scheme : Scheme) (text : List Char) :
    ∀ segment ∈ segmentsOn scheme [] text, ∀ c ∈ segment, PrintsInAscii c := by
  intro segment hsegment
  rw [segmentsOn, List.mem_reverse] at hsegment
  refine forall_mem_walk (P := fun segment => ∀ c ∈ segment, PrintsInAscii c) ?_ ?_ ?_ segment hsegment
  · simp
  · intro segment _ _ below
    exact printsInAscii_keepSegment scheme below segment
  · simp

/-- A path that keeps printable ASCII in each of its segments. -/
def Path.IsPrinted : Path → Prop
  | .segments list => ∀ segment ∈ list, IsAsciiText segment
  | .rootless text => IsAsciiText text

theorem isPrinted_segments {list : List (List Char)} (h : ∀ segment ∈ list, ∀ c ∈ segment, PrintsInAscii c) :
    (Path.segments (list.map String.ofList)).IsPrinted := by
  intro segment hsegment
  obtain ⟨cs, hcs, rfl⟩ := List.mem_map.1 hsegment
  exact isAsciiText_ofList.2 (h cs hcs)

theorem isPrinted_rootedPath (scheme : Scheme) (text : List Char) : (rootedPath scheme [] text).IsPrinted := by
  unfold rootedPath
  split
  · split
    · exact isPrinted_segments (printsInAscii_segmentsOn scheme [])
    · exact @isPrinted_segments [] (by simp)
  · exact isPrinted_segments (printsInAscii_segmentsOn scheme _)

namespace Path.IsPrinted

variable {path : Path} (h : path.IsPrinted)
include h

theorem isAsciiText_render : IsAsciiText path.render := by
  cases path with
  | segments list =>
    refine isAsciiText_join fun text htext => ?_
    obtain ⟨segment, hsegment, rfl⟩ := List.mem_map.1 htext
    exact isAsciiText_append.2 ⟨by decide, h segment hsegment⟩
  | rootless text => exact h

theorem isAsciiText_renderUnhosted : IsAsciiText path.renderUnhosted := by
  unfold Path.renderUnhosted
  split
  · exact isAsciiText_append.2 ⟨by decide, isAsciiText_render h⟩
  · exact isAsciiText_render h

end Path.IsPrinted

/-! ### Hosts -/

theorem printsInAscii_of_isWritten {c : Char} (h : DomainName.IsWritten c) : PrintsInAscii c := by
  have hlt := h.toNat_lt
  have hforbidden := h.isForbidden_eq
  simp only [DomainName.isForbidden, Bool.or_eq_false_iff, decide_eq_false_iff_not, beq_eq_false_iff_ne] at hforbidden
  obtain ⟨⟨hgt, hne⟩, -⟩ := hforbidden
  exact ⟨by omega, by omega⟩

theorem isAsciiText_ipv6 (groups : List UInt16) : IsAsciiText (Host.ipv6 groups).render := by
  have hgroups : ∀ c ∈ groupChars, PrintsInAscii c := (by decide : IsAsciiText "0123456789abcdef:")
  rw [Host.render, isAsciiText_append, isAsciiText_append]
  exact ⟨⟨by decide, fun c hc => hgroups c (mem_groupChars_of_mem_renderIpv6 groups c hc)⟩, by decide⟩

theorem isAsciiText_ofDomain (cs : List Char) : Yields (fun host => IsAsciiText host.render) (Host.ofDomain cs) := by
  intro host h
  rcases ofDomain_cases cs host h with ⟨groups, rfl⟩ | hwritten
  · exact isAsciiText_ipv6 groups
  · exact fun c hc => printsInAscii_of_isWritten (hwritten c hc)

theorem isAsciiText_ofOther (cs : List Char) : Yields (fun host => IsAsciiText host.render) (Host.ofOther cs) := by
  intro host h
  unfold Host.ofOther at h
  split at h
  · obtain ⟨groups, rfl⟩ := exists_groups_of_ofBrackets _ host h
    exact isAsciiText_ipv6 groups
  · split at h
    · contradiction
    · obtain rfl := Except.ok.inj h
      exact isAsciiText_ofList.2 (printsInAscii_percentEncode (fun _ hc => hc) cs)

theorem isAsciiText_readHost (scheme : Scheme) (cs : List Char) :
    Yields (fun host => IsAsciiText host.render) (readHost scheme cs) :=
  yields_ite (isAsciiText_ofDomain cs) (isAsciiText_ofOther cs)

/-! ### URLs -/

/-- A URL of which every part is printable ASCII. -/
structure IsPrinted (url : Url) : Prop where
  scheme : IsAsciiText url.scheme.name
  host : ∀ host ∈ url.authority, IsAsciiText host.render
  path : url.path.IsPrinted
  query : ∀ text ∈ url.query, IsAsciiText text
  fragment : ∀ text ∈ url.fragment, IsAsciiText text

theorem isAsciiText_repr (n : Nat) : IsAsciiText (Nat.repr n) := by
  have hdigit : ∀ n < 10, PrintsInAscii (Nat.digitChar n) := by decide
  intro c hc
  rw [Nat.repr, String.toList_ofList] at hc
  obtain ⟨d, hd, rfl⟩ := exists_of_mem_toDigits (by decide) hc
  exact hdigit d hd

/-- A part of a URL that is written behind a sign, if it is there. -/
theorem isAsciiText_part (sign : String) (hsign : IsAsciiText sign) {text? : Option String} :
    (∀ text ∈ text?, IsAsciiText text) → IsAsciiText (match text? with
      | some text => sign ++ text
      | none => "") := by
  intro h
  cases text? with
  | none => exact isAsciiText_empty
  | some text => exact isAsciiText_append.2 ⟨hsign, h text rfl⟩

theorem IsPrinted.isAsciiText_render {url : Url} (h : url.IsPrinted) : IsAsciiText url.render := by
  unfold Url.render
  simp only [isAsciiText_append]
  refine ⟨⟨⟨⟨h.scheme, by decide⟩, ?_⟩, isAsciiText_part "?" (by decide) h.query⟩,
    isAsciiText_part "#" (by decide) h.fragment⟩
  split
  · next host hhost =>
    simp only [isAsciiText_append]
    refine ⟨⟨⟨by decide, h.host host hhost⟩, ?_⟩, h.path.isAsciiText_render⟩
    split
    · exact isAsciiText_append.2 ⟨by decide, isAsciiText_repr _⟩
    · exact isAsciiText_empty
  · exact h.path.isAsciiText_renderUnhosted

section

variable {scheme : Scheme} (hname : IsAsciiText scheme.name)
include hname

theorem isPrinted_onAuthority (cs : List Char) : Yields IsPrinted (onAuthority scheme cs) := by
  rw [onAuthority_eq_map]
  intro url hurl
  cases hread : Authority.read scheme cs with
  | error fault =>
    rw [hread] at hurl
    contradiction
  | ok authority =>
    rw [hread] at hurl
    obtain rfl : authority.toUrl scheme = url := Except.ok.inj hurl
    obtain ⟨text, hhost⟩ := host_of_read scheme cs authority hread
    obtain ⟨hquery, hfragment⟩ := isAsciiText_tail scheme authority.rest
    refine ⟨hname, ?_, isPrinted_rootedPath scheme _, hquery, hfragment⟩
    intro host hmem
    obtain rfl := Option.some.inj hmem
    exact isAsciiText_readHost scheme text authority.host hhost

theorem isPrinted_ofOther (cs : List Char) : Yields IsPrinted (ofOther scheme cs) := by
  obtain ⟨hquery, hfragment⟩ := isAsciiText_tail scheme cs
  unfold ofOther
  split
  · exact isPrinted_onAuthority hname _
  · intro url hurl
    obtain rfl := Except.ok.inj hurl
    refine ⟨hname, by simp, ?_, hquery, hfragment⟩
    dsimp only
    split
    · exact isPrinted_rootedPath scheme _
    · exact isAsciiText_ofList.2 (printsInAscii_percentEncode (fun _ hc => hc) _)

end

theorem isPrinted_fileOn {host : Host} (h : IsAsciiText host.render) (cs : List Char) : (fileOn host cs).IsPrinted := by
  obtain ⟨hquery, hfragment⟩ := isAsciiText_tail .file cs
  have hscheme : IsAsciiText Scheme.file.name := by decide
  have hkept : ∀ onDrive : Bool, IsAsciiText (if onDrive then Host.name "" else host).render := by
    intro onDrive
    split
    · exact isAsciiText_empty
    · exact h
  refine ⟨hscheme, ?_, ?_, hquery, hfragment⟩
  · intro other hother
    obtain rfl := Option.some.inj hother
    exact hkept _
  · refine isPrinted_segments fun segment hsegment => ?_
    unfold dropEmptySegments at hsegment
    split at hsegment
    · obtain rfl := List.mem_singleton.1 hsegment
      simp
    · exact printsInAscii_segmentsOn .file _ segment (List.dropWhile_subset _ hsegment)

theorem isPrinted_ofFile (cs : List Char) : Yields IsPrinted (ofFile cs) := by
  have hempty : IsAsciiText (Host.name "").render := isAsciiText_empty
  have hon : ∀ {host : Host}, IsAsciiText host.render → ∀ cs, Yields IsPrinted (.ok (fileOn host cs)) :=
    fun hhost cs => (yields_pure _).2 (isPrinted_fileOn hhost cs)
  unfold ofFile
  split
  · refine yields_ite ?_ (hon hempty _)
    refine yields_ite (hon hempty _) ?_
    split
    · exact yields_throw _
    · next host hhost =>
      refine hon ?_ _
      split
      · exact hempty
      · exact isAsciiText_ofDomain _ host hhost
  · exact hon hempty _

/-! ### Schemes -/

theorem name_ofName (name : String) : (Scheme.ofName name).name = name := by
  unfold Scheme.ofName
  split <;> rfl

theorem isAsciiText_of_cutScheme? {cs rest : List Char} {scheme : Scheme} (h : cutScheme? cs = some (scheme, rest)) :
    IsAsciiText scheme.name := by
  unfold cutScheme? at h
  split at h
  · split at h
    · obtain ⟨rfl, -⟩ := Prod.mk.inj (Option.some.inj h)
      rw [name_ofName, isAsciiText_ofList]
      intro c hc
      obtain ⟨d, hd, rfl⟩ := List.mem_map.1 hc
      have hchar := List.mem_takeWhile_imp hd
      simp only [isSchemeChar, Bool.or_eq_true, beq_iff_eq] at hchar
      apply printsInAscii_toLower
      rcases hchar with ((halphanum | rfl) | rfl) | rfl
      · exact printsInAscii_of_isAlphanum halphanum
      all_goals decide
    · contradiction
  · contradiction

/-- Whatever a URL is read from, it is written in printable ASCII. -/
theorem isPrinted_read (s : String) : Yields IsPrinted (Url.read s) := by
  unfold Url.read
  split
  · next scheme rest hcut =>
    have hname := isAsciiText_of_cutScheme? hcut
    unfold ofScheme
    split
    · exact isPrinted_ofFile _
    · exact isPrinted_ofOther hname _
    · exact isPrinted_onAuthority hname _
  · exact yields_throw _

end PodAttach.Url
