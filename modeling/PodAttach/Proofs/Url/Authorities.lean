import PodAttach.Proofs.Url.Reading
import PodAttach.Proofs.Url.Segments

/-!
# How an authority is read

An authority ends at the first slash, question mark or number sign, so nothing that stands behind one of these is read
as a part of it. The schemes with hosts of their own kind read it in one way, up to the port that each of them leaves
out.
-/

namespace PodAttach.Url

open Text

/-! ### Readings side by side -/

/-- The readings fail with one fault, or yield results of which `R` holds. -/
inductive Agree {α β : Type} (R : α → β → Prop) : Except Fault α → Except Fault β → Prop
  | ok {a : α} {b : β} (h : R a b) : Agree R (.ok a) (.ok b)
  | error (fault : Fault) : Agree R (.error fault) (.error fault)

section

variable {α β γ δ : Type} {P : α → β → Prop} {R : γ → δ → Prop} {reading : Except Fault α} {other : Except Fault β}

theorem Agree.exists_ok (h : Agree P reading other) {a : α} (ha : reading = .ok a) : ∃ b, other = .ok b ∧ P a b := by
  cases h with
  | ok h =>
    obtain rfl := Except.ok.inj ha
    exact ⟨_, rfl, h⟩
  | error fault => contradiction

theorem Agree.isOk_iff (h : Agree P reading other) : (∃ a, reading = .ok a) ↔ ∃ b, other = .ok b := by
  cases h with
  | ok h => exact ⟨fun _ => ⟨_, rfl⟩, fun _ => ⟨_, rfl⟩⟩
  | error fault => simp

theorem Agree.map {f : β → δ} {S : α → δ → Prop} (h : Agree P reading other) (hnext : ∀ a b, P a b → S a (f b)) :
    Agree S reading (other.map f) := by
  cases h with
  | ok h => exact .ok (hnext _ _ h)
  | error fault => exact .error fault

theorem Agree.bind {f : α → Except Fault γ} {g : β → Except Fault δ} (h : Agree P reading other)
    (hnext : ∀ a b, P a b → Agree R (f a) (g b)) : Agree R (reading >>= f) (other >>= g) := by
  cases h with
  | ok h => exact hnext _ _ h
  | error fault => exact .error fault

theorem agree_refl (reading : Except Fault α) : Agree Eq reading reading := by
  cases reading with
  | error fault => exact .error fault
  | ok a => exact .ok rfl

theorem agree_ite {p : Prop} [Decidable p] {reading reading' : Except Fault γ} {other other' : Except Fault δ}
    (h : Agree R reading other) (h' : Agree R reading' other') :
    Agree R (if p then reading else reading') (if p then other else other') := by
  split
  · exact h
  · exact h'

/-- Readings that are refused on one condition. -/
theorem agree_unless {p : Prop} [Decidable p] {fault : Fault} {reading : Except Fault γ} {other : Except Fault δ}
    (h : Agree R reading other) :
    Agree R (do
        if p then throw fault
        reading) (do
        if p then throw fault
        other) := by
  dsimp only
  split
  · exact .error fault
  · exact h

end

/-! ### The schemes of the web -/

/-- The schemes that pages and sessions are served under. -/
def Scheme.web : List Scheme := [.http, .https, .ws, .wss]

namespace Scheme

variable {scheme : Scheme} (h : scheme ∈ web)
include h

theorem isSpecial_of_mem_web : scheme.isSpecial = true := by
  revert scheme
  decide

theorem ne_file_of_mem_web : scheme ≠ .file := by
  rintro rfl
  exact absurd h (by decide)

theorem cutScheme?_of_mem_web (rest : List Char) :
    cutScheme? (scheme.name.toList ++ ':' :: rest) = some (scheme, rest) := by
  simp only [web, List.mem_cons, List.not_mem_nil, or_false] at h
  rcases h with rfl | rfl | rfl | rfl <;> rfl

theorem ofScheme_of_mem_web (cs : List Char) :
    ofScheme scheme cs = onAuthority scheme (cs.dropWhile scheme.isSlash) := by
  simp only [web, List.mem_cons, List.not_mem_nil, or_false] at h
  rcases h with rfl | rfl | rfl | rfl <;> rfl

end Scheme

/-! ### The host of an authority -/

/-- A host that is a domain name or an address is never the empty one. -/
theorem isEmpty_ofDomain (cs : List Char) : Yields (fun host => host.isEmpty = false) (Host.ofDomain cs) := by
  intro host h
  unfold Host.ofDomain Host.ofBrackets at h
  split at h
  · split at h
    · split at h
      · obtain rfl := Except.ok.inj h
        rfl
      · contradiction
    · contradiction
  · split at h
    · contradiction
    · contradiction
    · next domain hne _ =>
      split at h
      · split at h
        · obtain rfl := Except.ok.inj h
          rfl
        · contradiction
      · obtain rfl := Except.ok.inj h
        have hdomain : String.ofList domain ≠ "" := by
          intro heq
          exact hne (by simpa using heq)
        rw [Host.isEmpty, beq_eq_false_iff_ne]
        intro heq
        exact hdomain (Host.name.inj heq)

/-- The host of a text, of the kind that the scheme has. -/
def readHost (scheme : Scheme) (cs : List Char) : Except Fault Host :=
  if scheme.isSpecial then Host.ofDomain cs else Host.ofOther cs

theorem host_of_readHostPort (scheme : Scheme) (cs rest : List Char) :
    Yields (fun authority => readHost scheme (hostText false cs) = .ok authority.host) (readHostPort scheme cs rest) := by
  have hport : ∀ (host : Host) (portChars : List Char), readHost scheme (hostText false cs) = .ok host →
      Yields (fun authority : Authority => readHost scheme (hostText false cs) = .ok authority.host) (do
        let port ← readPort scheme (portChars.takeWhile (· != '\\'))
        return ⟨host, port, portChars.dropWhile (· != '\\') ++ rest⟩) := fun host portChars hhost =>
    yields_bind fun port _ => (yields_pure _).2 hhost
  simp only [readHostPort]
  refine yields_ite (yields_bind fun _ _ => ?_) ?_
  all_goals split
  all_goals
    next hkind =>
    refine yields_bind fun host hhost => ?_
    have hhost : readHost scheme (hostText false cs) = .ok host := by simpa [readHost, hkind] using hhost
    split
    · exact (yields_pure _).2 hhost
    · exact yields_ite (yields_bind fun _ _ => hport host _ hhost) (hport host _ hhost)

theorem host_of_read (scheme : Scheme) (cs : List Char) :
    Yields (fun authority => ∃ text, readHost scheme text = .ok authority.host) (Authority.read scheme cs) := by
  unfold Authority.read
  dsimp only
  split
  · exact fun authority hauthority => ⟨_, host_of_readHostPort scheme _ _ authority hauthority⟩
  · next credentials hostPort _ =>
    have hread : Yields (fun authority => ∃ text, readHost scheme text = .ok authority.host) (do
        let authority ← readHostPort scheme hostPort (cs.dropWhile (!scheme.endsAuthority ·))
        if authority.host.isEmpty && !credentials.isEmpty && credentials != [':'] then throw .emptyHost
        return authority) := by
      refine yields_bind fun authority hauthority => ?_
      have hhost := host_of_readHostPort scheme _ _ authority hauthority
      exact yields_ite (yields_bind fun _ _ => (yields_pure _).2 ⟨_, hhost⟩) ((yields_pure _).2 ⟨_, hhost⟩)
    exact yields_ite (yields_bind fun _ _ => hread) hread

section

variable {scheme : Scheme} (hspecial : scheme.isSpecial = true)
include hspecial

theorem readHost_eq (cs : List Char) : readHost scheme cs = Host.ofDomain cs := by
  rw [readHost, if_pos hspecial]

theorem isEmpty_read (cs : List Char) :
    Yields (fun authority => authority.host.isEmpty = false) (Authority.read scheme cs) := by
  intro authority hauthority
  obtain ⟨text, hhost⟩ := host_of_read scheme cs authority hauthority
  rw [readHost_eq hspecial] at hhost
  exact isEmpty_ofDomain text authority.host hhost

omit hspecial in
/-- An authority ends where a path begins. -/
theorem cut_authority {cs : List Char} (hends : ∀ c ∈ cs, scheme.endsAuthority c = false) (rest : List Char) :
    (cs ++ '/' :: rest).takeWhile (!scheme.endsAuthority ·) = cs ∧
      (cs ++ '/' :: rest).dropWhile (!scheme.endsAuthority ·) = '/' :: rest := by
  have hslash : ¬(!scheme.endsAuthority '/') = true := by simp [Scheme.endsAuthority, Scheme.isSlash]
  constructor
  · have hnone : ('/' :: rest).takeWhile (!scheme.endsAuthority ·) = [] := List.takeWhile_cons_of_neg hslash
    rw [List.takeWhile_append_of_pos fun c hc => by simp [hends c hc], hnone, List.append_nil]
  · rw [List.dropWhile_append_of_pos fun c hc => by simp [hends c hc]]
    exact List.dropWhile_cons_of_neg hslash

theorem endsAuthority_eq_false_iff (c : Char) :
    scheme.endsAuthority c = false ↔ c ≠ '/' ∧ c ≠ '\\' ∧ c ≠ '?' ∧ c ≠ '#' := by
  simp [Scheme.endsAuthority, Scheme.isSlash, hspecial, and_assoc]

end

/-! ### Authorities under two schemes -/

namespace Authority

/-- The URL that an authority and the text behind it make. -/
def toUrl (scheme : Scheme) (authority : Authority) : Url :=
  { scheme, authority := some authority.host, port := authority.port,
    path := rootedPath scheme [] (pathText authority.rest),
    query := (tail scheme authority.rest).1, fragment := (tail scheme authority.rest).2 }

/-- The one authority is the other one with `more` behind it, but for a port that goes without saying. -/
structure Extends (scheme other : Scheme) (more : List Char) (a b : Authority) : Prop where
  host_eq : b.host = a.host
  rest_eq : b.rest = a.rest ++ more
  port_eq : scheme.defaultPort? = other.defaultPort? → b.port = a.port

end Authority

theorem onAuthority_eq_map (scheme : Scheme) (cs : List Char) :
    onAuthority scheme cs = (Authority.read scheme cs).map (·.toUrl scheme) := by
  unfold onAuthority
  cases Authority.read scheme cs <;> rfl

theorem readPort_agree (scheme other : Scheme) (cs : List Char) :
    Agree (fun port port' => scheme.defaultPort? = other.defaultPort? → port' = port) (readPort scheme cs)
      (readPort other cs) := by
  unfold readPort
  refine agree_ite (.ok fun _ => rfl) ?_
  split
  · exact agree_ite (.error _) (.ok fun hdefault => by rw [hdefault])
  · exact .error _

section

variable {scheme other : Scheme} (hspecial : scheme.isSpecial = true) (hother : other.isSpecial = true)
include hspecial hother

theorem readHostPort_agree (cs rest more : List Char) :
    Agree (Authority.Extends scheme other more) (readHostPort scheme cs rest)
      (readHostPort other cs (rest ++ more)) := by
  have hport : ∀ (host : Host) (portChars : List Char), Agree (Authority.Extends scheme other more) (do
        let port ← readPort scheme (portChars.takeWhile (· != '\\'))
        return ⟨host, port, portChars.dropWhile (· != '\\') ++ rest⟩) (do
        let port ← readPort other (portChars.takeWhile (· != '\\'))
        return ⟨host, port, portChars.dropWhile (· != '\\') ++ (rest ++ more)⟩) := fun host portChars =>
    (readPort_agree scheme other _).bind fun _ _ hdefault => .ok ⟨rfl, (List.append_assoc ..).symm, hdefault⟩
  simp only [readHostPort, hspecial, hother, Bool.true_and, if_true]
  refine agree_unless ((agree_refl _).bind ?_)
  rintro host _ rfl
  split
  · exact .ok ⟨rfl, rfl, fun _ => rfl⟩
  · exact agree_unless (hport host _)

theorem isSlash_eq : other.isSlash = scheme.isSlash := by
  funext c
  rw [Scheme.isSlash, Scheme.isSlash, hspecial, hother]

theorem endsAuthority_eq : other.endsAuthority = scheme.endsAuthority := by
  funext c
  rw [Scheme.endsAuthority, Scheme.endsAuthority, isSlash_eq hspecial hother]

/-- A text that holds the end of its authority can go on in any way. -/
theorem Authority.read_agree {cs : List Char} (h : ∃ c ∈ cs, scheme.endsAuthority c = true) (more : List Char) :
    Agree (Authority.Extends scheme other more) (Authority.read scheme cs) (Authority.read other (cs ++ more)) := by
  have hstops : ∃ c ∈ cs, (!scheme.endsAuthority c) = false := by simpa only [Bool.not_eq_false'] using h
  unfold Authority.read
  dsimp only
  rw [endsAuthority_eq hspecial hother, takeWhile_append_of_exists hstops, dropWhile_append_of_exists hstops]
  split
  · exact readHostPort_agree hspecial hother _ _ more
  · next credentials hostPort _ =>
    have hrest : cs.dropWhile (!scheme.endsAuthority ·) ≠ [] := by
      simpa only [ne_eq, List.dropWhile_eq_nil_iff, not_forall, exists_prop, Bool.not_eq_true] using hstops
    have hboth : (cs.dropWhile (!scheme.endsAuthority ·) ++ more).isEmpty =
        (cs.dropWhile (!scheme.endsAuthority ·)).isEmpty := by
      rw [List.isEmpty_eq_false_iff.2 hrest,
        List.isEmpty_eq_false_iff.2 (List.append_ne_nil_of_left_ne_nil hrest more)]
    rw [hboth]
    refine agree_unless ((readHostPort_agree hspecial hother hostPort _ more).bind fun a b hextends => ?_)
    rw [hextends.host_eq]
    exact agree_unless (.ok hextends)

theorem tail_congr (cs : List Char) : tail other cs = tail scheme cs := by
  rw [tail, tail, hspecial, hother]

theorem rootedPath_congr (hfile : scheme ≠ .file) (hotherFile : other ≠ .file) (below : List (List Char))
    (text : List Char) : rootedPath other below text = rootedPath scheme below text := by
  cases text <;>
    simp only [rootedPath, hspecial, hother, isSlash_eq hspecial hother,
      segmentsOn_congr hfile hotherFile (isSlash_eq hspecial hother)]

end

/-! ### The URL of a host and a path -/

/-- Behind the scheme and the two slashes stands the host, up to the first slash of the path. -/
theorem read_of_clean {scheme : Scheme} (hscheme : scheme ∈ Scheme.web) {s : String} {host cs : List Char}
    (hne : host ≠ []) (hends : ∀ c ∈ host, scheme.endsAuthority c = false)
    (hclean : clean s.toList = scheme.name.toList ++ ':' :: '/' :: '/' :: (host ++ '/' :: cs)) :
    Url.read s = (Authority.read scheme (host ++ '/' :: cs)).map (·.toUrl scheme) := by
  obtain ⟨first, more, rfl⟩ := List.exists_cons_of_ne_nil hne
  have hslash : scheme.isSlash '/' = true := rfl
  have hfirst : ¬scheme.isSlash first = true := by
    have hfirst := hends first List.mem_cons_self
    simp only [Scheme.endsAuthority, Bool.or_eq_false_iff] at hfirst
    simp [hfirst.1.1]
  rw [Url.read, hclean, Scheme.cutScheme?_of_mem_web hscheme]
  show ofScheme scheme _ = _
  rw [Scheme.ofScheme_of_mem_web hscheme, List.dropWhile_cons_of_pos hslash, List.dropWhile_cons_of_pos hslash,
    List.cons_append, List.dropWhile_cons_of_neg hfirst, onAuthority_eq_map]

/-! ### The host of a URL -/

theorem scheme_of_ofFile (cs : List Char) : Yields (fun url => url.scheme = .file) (ofFile cs) := by
  have hon : ∀ {host : Host} {cs : List Char} {url : Url}, .ok (fileOn host cs) = (.ok url : Except Fault Url) →
      url.scheme = .file := by
    intro host cs url h
    rw [← Except.ok.inj h]
    rfl
  intro url h
  unfold ofFile at h
  split at h
  · split at h
    · dsimp only at h
      split at h
      · exact hon h
      · split at h
        · contradiction
        · exact hon h
    · exact hon h
  · exact hon h

theorem scheme_of_ofScheme (scheme : Scheme) (cs : List Char) :
    Yields (fun url => url.scheme = scheme) (ofScheme scheme cs) := by
  have hauthority : ∀ cs, Yields (fun url => url.scheme = scheme) (onAuthority scheme cs) := by
    intro cs
    unfold onAuthority
    exact yields_bind fun authority _ => (yields_pure _).2 rfl
  unfold ofScheme
  split
  · exact scheme_of_ofFile cs
  · unfold ofOther
    split
    · exact hauthority _
    · exact fun url h => Except.ok.inj h ▸ rfl
  · exact hauthority _

/-- A URL of the web has a host that is a domain name or an address. -/
theorem host_of_mem_web {s : String} {url : Url} (hread : Url.read s = .ok url) (hscheme : url.scheme ∈ Scheme.web) :
    ∃ host text, url.authority = some host ∧ Host.ofDomain text = .ok host := by
  rw [Url.read] at hread
  split at hread
  · next scheme rest _ =>
    obtain rfl := scheme_of_ofScheme scheme rest url hread
    rw [Scheme.ofScheme_of_mem_web hscheme, onAuthority_eq_map] at hread
    cases hauthority : Authority.read url.scheme (rest.dropWhile url.scheme.isSlash) with
    | error fault =>
      rw [hauthority] at hread
      contradiction
    | ok authority =>
      rw [hauthority] at hread
      obtain ⟨text, hhost⟩ := host_of_read url.scheme _ authority hauthority
      rw [readHost_eq (Scheme.isSpecial_of_mem_web hscheme)] at hhost
      exact ⟨authority.host, text, by rw [← Except.ok.inj hread]; rfl, hhost⟩
  · contradiction

end PodAttach.Url
