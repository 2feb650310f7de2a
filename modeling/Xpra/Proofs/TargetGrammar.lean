import Xpra.Net.Uri
import Mathlib.Data.List.TakeWhile

/-! The grammar of connection targets. Every text belongs to exactly one of its forms,
and what `parse_target` makes of it keeps every character that the form names. -/

namespace Xpra.Proofs.TargetGrammar
open Xpra.Net Library

/-- A name in any letter case. -/
def AnyCase (text name : String) : Prop := text.toList.map Char.toLower = name.toList

instance (text name : String) : Decidable (AnyCase text name) := inferInstanceAs (Decidable (_ = _))

def schemes : List (String × Scheme) :=
  [("tcp", .tcp), ("ssl", .tls), ("ws", .webSocket), ("wss", .webSocketTls), ("ssh", .ssh)]

abbrev Absolute (path : String) : Prop := path.toList.head? = some '/'

/-- What stands before the first `://` of a text, and what follows it. -/
def Cut (target scheme rest : String) : Prop := Split.First "://".toList target.toList scheme.toList rest.toList

variable {quote : String → String} {target scheme rest : String}

theorem anyCase_iff {name : String} (lower : name.toList.map Char.toLower = name.toList) :
    eqIgnoreAsciiCase scheme.toList name = true ↔ AnyCase scheme name := by
  rw [eqIgnoreAsciiCase, lower, decide_eq_true_eq, AnyCase]

/-- A text has at most one of the names. -/
theorem AnyCase.unique {name name' : String} (first : AnyCase scheme name) (second : AnyCase scheme name') : name = name' :=
  String.toList_inj.mp (first.symm.trans second)

theorem schemeOf_iff {kind : Scheme} :
    schemeOf scheme.toList = some kind ↔ ∃ name, (name, kind) ∈ schemes ∧ AnyCase scheme name := by
  simp only [schemeOf, anyCase_iff (show "tcp".toList.map Char.toLower = "tcp".toList by decide),
    anyCase_iff (show "ssl".toList.map Char.toLower = "ssl".toList by decide),
    anyCase_iff (show "ws".toList.map Char.toLower = "ws".toList by decide),
    anyCase_iff (show "wss".toList.map Char.toLower = "wss".toList by decide),
    anyCase_iff (show "ssh".toList.map Char.toLower = "ssh".toList by decide)]
  constructor
  · intro known
    split at known
    next named => cases known; exact ⟨"tcp", by decide, named⟩
    split at known
    next named => cases known; exact ⟨"ssl", by decide, named⟩
    split at known
    next named => cases known; exact ⟨"ws", by decide, named⟩
    split at known
    next named => cases known; exact ⟨"wss", by decide, named⟩
    split at known
    next named => cases known; exact ⟨"ssh", by decide, named⟩
    cases known
  · rintro ⟨name, listed, named⟩
    have only (other : String) (different : name ≠ other) : ¬ AnyCase scheme other := by
      intro same
      exact different (named.unique same)
    simp only [schemes, List.mem_cons, Prod.mk.injEq, List.not_mem_nil, or_false] at listed
    rcases listed with ⟨rfl, rfl⟩ | ⟨rfl, rfl⟩ | ⟨rfl, rfl⟩ | ⟨rfl, rfl⟩ | ⟨rfl, rfl⟩
    all_goals simp [named, only]

theorem parseTarget_absolute (absolute : Absolute target) :
    parseTarget quote target = .ok { scheme := .socket, address := target, path := "", username := none } := by
  rw [parseTarget, if_pos absolute]

theorem parseTarget_bare (relative : ¬ Absolute target) (bare : ∀ before after, target.toList ≠ before ++ "://".toList ++ after) :
    parseTarget quote target = .ok { scheme := .tcp, address := target, path := "", username := none } := by
  rw [parseTarget, if_neg relative, Split.cut_eq_none_iff.mpr bare]

theorem parseTarget_socket (relative : ¬ Absolute target) (cut : Cut target scheme rest) (socket : AnyCase scheme "socket")
    (parsed : Target) : parseTarget quote target = .ok parsed ↔
      Absolute rest ∧ parsed = { scheme := .socket, address := rest, path := "", username := none } := by
  rw [parseTarget, if_neg relative, Split.cut_eq_some_iff.mpr cut]
  dsimp only
  rw [if_pos ((anyCase_iff (by decide)).mpr socket), String.ofList_toList]
  by_cases absolute : Absolute rest
  · have present : rest.toList ≠ [] := by
      intro nothing
      rw [Absolute, nothing] at absolute
      cases absolute
    rw [if_neg present, if_neg (not_not.mpr absolute)]
    simp [absolute, eq_comm]
  · simp only [absolute, false_and, iff_false]
    split
    · intro impossible; cases impossible
    · intro impossible; cases impossible

/-- What the other schemes have in common, up to the choice of the scheme. -/
theorem parseTarget_remote (relative : ¬ Absolute target) (cut : Cut target scheme rest) (remote : ¬ AnyCase scheme "socket") :
    parseTarget quote target =
      if rest.toList.takeWhile (· ≠ '/') = [] then .error s!"missing host:port in {quote target}"
      else match schemeOf scheme.toList with
        | none => .error (s!"unsupported protocol {quote (String.ofList scheme.toList)}: only 'tcp', 'ssl', 'ws', 'wss', " ++
            "'ssh' and 'socket' are supported")
        | some .ssh => .ok (parseSsh (rest.toList.takeWhile (· ≠ '/')) (rest.toList.dropWhile (· ≠ '/')))
        | some kind => .ok { scheme := kind, address := String.ofList (rest.toList.takeWhile (· ≠ '/')),
                             path := String.ofList (rest.toList.dropWhile (· ≠ '/')), username := none } := by
  rw [parseTarget, if_neg relative, Split.cut_eq_some_iff.mpr cut]
  dsimp only
  exact if_neg (mt (anyCase_iff (by decide)).mp remote)

private theorem authority_missing_iff : rest.toList.takeWhile (· ≠ '/') = [] ↔ rest = "" ∨ Absolute rest := by
  rw [Absolute, ← String.toList_eq_nil_iff]
  cases rest.toList with
  | nil => simp
  | cons first later =>
    by_cases slash : first = '/' <;> simp [slash]

theorem parseTarget_accepts_iff (relative : ¬ Absolute target) (cut : Cut target scheme rest) (remote : ¬ AnyCase scheme "socket") :
    (∃ parsed, parseTarget quote target = .ok parsed) ↔
      (∃ entry ∈ schemes, AnyCase scheme entry.1) ∧ ¬ Absolute rest ∧ rest ≠ "" := by
  have listed : (∃ entry ∈ schemes, AnyCase scheme entry.1) ↔ ∃ kind, schemeOf scheme.toList = some kind := by
    simp only [schemeOf_iff, Prod.exists]
    exact exists_comm
  rw [parseTarget_remote relative cut remote, listed]
  by_cases missing : rest.toList.takeWhile (· ≠ '/') = []
  · rw [if_pos missing]
    have := authority_missing_iff.mp missing
    constructor
    · rintro ⟨parsed, impossible⟩
      cases impossible
    · rintro ⟨_, relative, present⟩
      exact absurd this (not_or.mpr ⟨present, relative⟩)
  · rw [if_neg missing]
    obtain ⟨present, relative⟩ := not_or.mp (mt authority_missing_iff.mpr missing)
    cases known : schemeOf scheme.toList with
    | none => simp
    | some kind => cases kind <;> simp [relative, present]

/-- What the target of a scheme with an address and a path keeps of the text. -/
structure Kept (target scheme : String) (kind : Scheme) (parsed : Target) : Prop where
  kind : parsed.scheme = kind
  whole : scheme ++ "://" ++ parsed.address ++ parsed.path = target
  present : parsed.address ≠ ""
  plain : '/' ∉ parsed.address.toList
  path : parsed.path = "" ∨ Absolute parsed.path
  anonymous : parsed.username = none

theorem parseTarget_keeps {name : String} {kind : Scheme} {parsed : Target} (relative : ¬ Absolute target)
    (cut : Cut target scheme rest) (listed : (name, kind) ∈ schemes) (named : AnyCase scheme name) (direct : kind ≠ .ssh)
    (read : parseTarget quote target = .ok parsed) : Kept target scheme kind parsed := by
  have remote : ¬ AnyCase scheme "socket" := by
    intro socket
    rw [named.unique socket] at listed
    exact absurd listed (by cases kind <;> decide)
  rw [parseTarget_remote relative cut remote] at read
  split at read
  · cases read
  next missing =>
    rw [schemeOf_iff.mpr ⟨name, listed, named⟩] at read
    have built : parsed = ⟨kind, String.ofList (rest.toList.takeWhile (· ≠ '/')),
        String.ofList (rest.toList.dropWhile (· ≠ '/')), none⟩ := by
      cases kind <;> first | exact absurd rfl direct | exact (Except.ok.inj read).symm
    subst built
    refine ⟨rfl, ?_, ?_, ?_, ?_, rfl⟩
    · apply String.toList_inj.mp
      rw [cut.split]
      simp
    · rw [ne_eq, ← String.toList_eq_nil_iff, String.toList_ofList]
      exact missing
    · rw [String.toList_ofList]
      intro slash
      have early := List.mem_takeWhile_imp slash
      simp at early
    · rw [← String.toList_eq_nil_iff, Absolute, String.toList_ofList]
      have stopped := List.head?_dropWhile_not (· ≠ '/') rest.toList
      cases behind : rest.toList.dropWhile (· ≠ '/') with
      | nil => exact .inl rfl
      | cons first later =>
        rw [behind] at stopped
        have slash : first = '/' := by simpa using stopped
        rw [slash]
        exact .inr rfl

/-- What `parse_target` makes of a text, form by form. -/
structure Classified (quote : String → String) (target : String) : Prop where
  absolute : Absolute target →
    parseTarget quote target = .ok { scheme := .socket, address := target, path := "", username := none }
  bare : ¬ Absolute target → (∀ before after, target.toList ≠ before ++ "://".toList ++ after) →
    parseTarget quote target = .ok { scheme := .tcp, address := target, path := "", username := none }
  socket : ∀ scheme rest, ¬ Absolute target → Cut target scheme rest → AnyCase scheme "socket" →
    ∀ parsed, parseTarget quote target = .ok parsed ↔
      Absolute rest ∧ parsed = { scheme := .socket, address := rest, path := "", username := none }
  accepted : ∀ scheme rest, ¬ Absolute target → Cut target scheme rest → ¬ AnyCase scheme "socket" →
    ((∃ parsed, parseTarget quote target = .ok parsed) ↔
      (∃ entry ∈ schemes, AnyCase scheme entry.1) ∧ ¬ Absolute rest ∧ rest ≠ "")
  kept : ∀ scheme rest, ¬ Absolute target → Cut target scheme rest → ∀ name kind, (name, kind) ∈ schemes →
    AnyCase scheme name → kind ≠ .ssh → ∀ parsed, parseTarget quote target = .ok parsed → Kept target scheme kind parsed
  covered : Absolute target ∨ (∀ before after, target.toList ≠ before ++ "://".toList ++ after) ∨
    ∃ scheme rest, Cut target scheme rest

/-- Every text is classified by the one grammar, and the direct schemes lose nothing of
it. -/
theorem targets_classified (quote : String → String) (target : String) : Classified quote target where
  absolute := parseTarget_absolute
  bare := parseTarget_bare
  socket _ _ := parseTarget_socket
  accepted _ _ := parseTarget_accepts_iff
  kept _ _ relative cut _ _ listed named direct _ := parseTarget_keeps relative cut listed named direct
  covered := by
    cases found : Split.cut "://".toList target.toList with
    | none => exact .inr (.inl (Split.cut_eq_none_iff.mp found))
    | some halves =>
      refine .inr (.inr ⟨String.ofList halves.1, String.ofList halves.2, ?_⟩)
      simpa only [Cut, String.toList_ofList] using Split.cut_eq_some_iff.mp found

end Xpra.Proofs.TargetGrammar
