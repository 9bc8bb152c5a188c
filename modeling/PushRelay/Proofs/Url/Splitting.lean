import Mathlib.Data.List.TakeWhile
import PushRelay.Url.Basic

/-!
# Where a URL points

What stands between the two slashes and the first mark that ends an authority
decides which host a URL points to; nothing that comes later can change it,
neither before the URL is put into normal form nor after.
-/

namespace PushRelay.Url

/-! ## Splitting -/

/-- A scheme as it may be written. -/
def IsScheme (cs : List Char) : Prop :=
  (∀ c ∈ cs, isSchemeChar c = true) ∧ ∃ c ∈ cs.head?, c.isAlpha = true

/-- The text has none of the marks that end an authority or set off a part of
it, so it can only be a host. -/
def IsBareHost (cs : List Char) : Prop := ∀ c ∈ cs, c ∉ ['/', '?', '#', '@', ':', '[']

/-- The text is over, or it goes on with a mark that ends an authority. -/
def EndsAuthority (cs : List Char) : Prop := ∀ c ∈ cs.head?, c ∈ ['/', '?', '#']

/-- The path is empty or begins at the root. -/
def IsRooted (path : List Char) : Prop := ∀ c ∈ path.head?, c = '/'

/-- Split, the text has the scheme and the host, and neither a user nor a
port. -/
structure PointsTo (cs scheme host : List Char) : Prop where
  scheme : (split cs).scheme = scheme
  user : (split cs).user = []
  host : (split cs).host = host
  port : (split cs).port = []

variable {scheme host rest path cs : List Char}

theorem EndsAuthority.nil : EndsAuthority [] := by
  intro c hc
  cases hc

theorem EndsAuthority.cons {c : Char} (h : c ∈ ['/', '?', '#']) (cs : List Char) :
    EndsAuthority (c :: cs) := by
  intro c' hc'
  cases hc'
  exact h

theorem splitScheme_of_isScheme (h : IsScheme scheme) (rest : List Char) :
    splitScheme (scheme ++ ':' :: rest) = (scheme, rest) := by
  obtain ⟨hchars, first, hfirst, halpha⟩ := h
  have hcolon : isSchemeChar ':' = false := by decide
  have htake : (scheme ++ ':' :: rest).takeWhile isSchemeChar = scheme := by
    rw [List.takeWhile_append_of_pos hchars, List.takeWhile_cons_of_neg (by simp [hcolon]),
      List.append_nil]
  have hdrop : (scheme ++ ':' :: rest).dropWhile isSchemeChar = ':' :: rest := by
    rw [List.dropWhile_append_of_pos hchars, List.dropWhile_cons_of_neg (by simp [hcolon])]
  have hhead : scheme.head?.all Char.isAlpha = true := by
    rw [Option.mem_def.mp hfirst]
    exact halpha
  unfold splitScheme
  simp only [htake, hdrop, hhead, if_true]

theorem splitBefore_append {marks : List Char} (hcs : ∀ c ∈ cs, c ∉ marks)
    (hrest : ∀ c ∈ rest.head?, c ∈ marks) :
    splitBefore marks (cs ++ rest) = (cs, rest) := by
  have hkept : ∀ c ∈ cs, (!marks.contains c) = true := by
    intro c hc
    simp [hcs c hc]
  unfold splitBefore
  rw [List.takeWhile_append_of_pos hkept, List.dropWhile_append_of_pos hkept]
  cases rest with
  | nil => simp
  | cons c rest => simp [hrest c rfl]

theorem splitBefore_of_none {marks : List Char} (hcs : ∀ c ∈ cs, c ∉ marks) :
    splitBefore marks cs = (cs, []) := by
  have h : splitBefore marks (cs ++ []) = (cs, []) :=
    splitBefore_append hcs fun c hc => by cases hc
  rwa [List.append_nil] at h

/-- What follows the host is split by itself: the scheme, the host, and that
there is neither a user nor a port, do not depend on it. -/
theorem split_of_bareHost (hscheme : IsScheme scheme) (hhost : IsBareHost host)
    (hrest : EndsAuthority rest) :
    PointsTo (scheme ++ ':' :: '/' :: '/' :: (host ++ rest)) scheme host ∧
      (split (scheme ++ ':' :: '/' :: '/' :: (host ++ rest))).path =
        (splitBefore ['?', '#'] rest).1 := by
  have hauthority : splitAuthority ('/' :: '/' :: (host ++ rest)) = (host, rest) := by
    refine splitBefore_append ?_ hrest
    intro c hc hmark
    exact hhost c hc (List.mem_append_left ['@', ':', '['] hmark)
  have huser : splitUser host = ([], host) := by
    have hat : '@' ∉ host := fun hc => hhost '@' hc (by decide)
    unfold splitUser
    rw [if_neg (by simpa using hat)]
  have hport : splitPort host = (host, []) := by
    have hopen : (host.head? == some '[') = false := by
      rw [beq_eq_false_iff_ne]
      intro hhead
      exact hhost '[' (List.mem_of_mem_head? hhead) (by decide)
    have hcolon : ∀ c ∈ host, c ∉ [':'] := by
      intro c hc hmark
      cases List.mem_singleton.mp hmark
      exact hhost ':' hc (by decide)
    unfold splitPort
    rw [hopen, splitBefore_of_none hcolon]
    rfl
  refine ⟨⟨?_, ?_, ?_, ?_⟩, ?_⟩ <;>
    simp only [split, splitScheme_of_isScheme hscheme, hauthority, huser, hport]

/-! ## Paths -/

theorem IsRooted.endsAuthority_append (hpath : IsRooted path) (hrest : EndsAuthority rest) :
    EndsAuthority (path ++ rest) := by
  cases path with
  | nil => exact hrest
  | cons first path =>
    cases hpath first rfl
    exact .cons (by decide) (path ++ rest)

theorem IsRooted.splitBefore (marks : List Char) (h : IsRooted path) :
    IsRooted (splitBefore marks path).1 := by
  intro c hc
  cases path with
  | nil => cases hc
  | cons first rest =>
    refine h c ?_
    unfold Url.splitBefore at hc
    rw [List.takeWhile_cons] at hc
    split at hc
    · exact hc
    · cases hc

/-- The empty part that a rooted path begins with is never taken back. -/
theorem resolveDots_rooted (parts done : List (List Char)) :
    ∃ rest, resolveDots (done ++ [[]]) parts = [] :: rest := by
  induction parts generalizing done with
  | nil => exact ⟨done.reverse, by simp [resolveDots]⟩
  | cons part parts ih =>
    rw [resolveDots]
    split
    · exact ih done
    · split
      · cases done with
        | nil => exact ih []
        | cons last done =>
          have hmore : (last :: done ++ [[]] == [[]]) = false := by
            rw [beq_eq_false_iff_ne]
            intro hsame
            simpa using congrArg List.length hsame
          rw [hmore]
          exact ih done
      · exact ih (part :: done)

theorem IsRooted.withoutDots (h : IsRooted path) : IsRooted (withoutDots path) := by
  -- a rooted path is split into parts of which the first is empty
  obtain ⟨parts, hparts⟩ : ∃ parts, splitAt '/' path = [] :: parts := by
    cases path with
    | nil => exact ⟨[], rfl⟩
    | cons c rest =>
      cases h c rfl
      exact ⟨splitAt '/' rest, by simp [splitAt]⟩
  obtain ⟨rest, hrest⟩ := resolveDots_rooted parts []
  have hresolved : resolveDots [] (splitAt '/' path) = [] :: rest := by
    rw [hparts, resolveDots, if_neg (by simp), if_neg (by simp)]
    exact hrest
  intro c hc
  rw [Url.withoutDots, hresolved] at hc
  cases rest with
  | nil => cases hc
  | cons part rest =>
    rw [List.intercalate_cons_cons] at hc
    cases hc
    rfl

theorem IsRooted.quote {safe : Char → Bool} (hsafe : safe '/' = true) (h : IsRooted path) :
    IsRooted (quote safe path) := by
  cases path with
  | nil => exact h
  | cons c rest =>
    cases h c rfl
    intro c hc
    simp only [Url.quote, List.flatMap_cons, hsafe, if_true] at hc
    cases hc
    rfl

/-! ## Normal form -/

/-- The URL has the scheme and the host, the port that the scheme implies, and
no user; its path is rooted. -/
structure IsAt (u : Url) (scheme host : List Char) : Prop where
  scheme : u.scheme = scheme
  user : u.user = []
  host : u.host = host
  port : u.port = none
  path : IsRooted u.path

/-- A text that points to a scheme and a host in normal form is a URL for
them. -/
theorem normalize_of_pointsTo (h : PointsTo cs scheme host) (hpath : IsRooted (split cs).path)
    (hscheme : scheme ≠ []) (hlower : Text.lower scheme = scheme)
    (hhost : readHost host = .ok host) :
    ∃ url, normalize (split cs) = .ok url ∧ url.IsAt scheme host := by
  have hport : readPort (split cs).scheme (split cs).port = .ok none := by
    rw [h.port]
    rfl
  have hnonempty : scheme.isEmpty = false := by simpa using hscheme
  refine ⟨{
    scheme
    user := []
    host
    port := none
    path := quote pathSafe (withoutDots (split cs).path)
    query := (split cs).query.map (quote querySafe)
    fragment := (split cs).fragment.map (quote fragmentSafe) }, ?_, rfl, rfl, rfl, rfl, ?_⟩
  · unfold normalize
    rw [hport, h.host, hhost, h.scheme, h.user, hlower]
    simp only [hnonempty, Bool.false_and]
    rfl
  · exact hpath.withoutDots.quote (by decide)

/-- The text is short enough for a URL, and all of it can be printed. -/
def IsClean (text : String) : Prop :=
  text.toList.length ≤ maxLength ∧ ∀ c ∈ text.toList, isControl c = false

/-- Only a clean text is split and put into normal form. -/
theorem parse_eq_ok_iff {text : String} {url : Url} :
    parse text = .ok url ↔ IsClean text ∧ normalize (split text.toList) = .ok url := by
  unfold parse IsClean
  dsimp only
  split
  · case isTrue hlong =>
    refine iff_of_false (fun h => ?_) (fun h => absurd h.1.1 (Nat.not_le.mpr hlong))
    cases h
  · case isFalse hlong =>
    split
    · case h_1 c hfind =>
      -- the character that was found cannot be printed
      have hcontrol := List.find?_some hfind
      refine iff_of_false (fun h => ?_) (fun h => ?_)
      · cases h
      · cases hcontrol.symm.trans (h.1.2 c (List.mem_of_find?_eq_some hfind))
    · case h_2 hfind =>
      have hclean : ∀ c ∈ text.toList, isControl c = false := by
        simpa using List.find?_eq_none.mp hfind
      exact (and_iff_right ⟨Nat.not_lt.mp hlong, hclean⟩).symm

/-- The text of a URL for a scheme and a host points to them. -/
theorem IsAt.pointsTo {u : Url} (h : u.IsAt scheme host) (hscheme : IsScheme scheme)
    (hhost : IsBareHost host) (hne : host ≠ []) : PointsTo u.chars scheme host := by
  have hcolon : ':' ∉ host := fun hc => hhost ':' hc (by decide)
  have hauthority : u.authority = host := by
    unfold authority hostText
    rw [h.user, h.host, h.port]
    simp [hcolon]
  have hnamed : scheme.isEmpty = false := by
    obtain ⟨-, first, hfirst, -⟩ := hscheme
    cases scheme with
    | nil => cases hfirst
    | cons => rfl
  -- query and fragment begin with the marks that they are found by
  have hchars : ∃ rest, EndsAuthority rest ∧
      u.chars = scheme ++ ':' :: '/' :: '/' :: (host ++ (u.path ++ rest)) := by
    unfold chars
    rw [hauthority, h.scheme, hnamed]
    cases u.query <;> cases u.fragment
    case none.none => exact ⟨[], .nil, by simp [hne]⟩
    case none.some fragment => exact ⟨'#' :: fragment, .cons (by decide) _, by simp [hne]⟩
    case some.none query => exact ⟨'?' :: query, .cons (by decide) _, by simp [hne]⟩
    case some.some query fragment =>
      exact ⟨'?' :: (query ++ '#' :: fragment), .cons (by decide) _, by simp [hne]⟩
  obtain ⟨rest, hrest, hchars⟩ := hchars
  rw [hchars]
  exact (split_of_bareHost hscheme hhost (h.path.endsAuthority_append hrest)).1

end PushRelay.Url
