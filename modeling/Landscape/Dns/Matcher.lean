import Mathlib.Data.List.DropRight
import Mathlib.Data.List.Infix

/-! The matcher that a list of domain rules is built into, over the bytes of the names. The trie,
the keyword automaton and the set of regular expressions stand for the sets of what was put into
them. -/
namespace Landscape.Dns
open List

abbrev Text := List UInt8

def dot : UInt8 := 46

inductive DomainMatchType where
  | plain
  | regex
  | domain
  | full

structure DomainConfig where
  matchType : DomainMatchType
  value : Text

def toAsciiLowercase (b : UInt8) : UInt8 := if 65 ≤ b ∧ b ≤ 90 then b + 32 else b

def normalizeDomainString (value : Text) : Text := (value.rdropWhile (· = dot)).map toAsciiLowercase

def isAscii (text : Text) : Bool := text.all (· < 128)

structure DomainMatcher where
  regexSet : List Text := []
  fullDomains : List Text := []
  keywords : List Text := []
  subdomains : List Text := []

/-- What a valid regular expression matches. -/
abbrev Engine := Text → Option (Text → Bool)

variable (regex : Engine) (rules : List DomainConfig) (m : DomainMatcher) (c : DomainConfig)

def DomainMatcher.add : DomainMatcher :=
  let text := normalizeDomainString c.value
  match c.matchType with
  | .plain => { m with keywords := text :: m.keywords }
  | .regex => if (regex c.value).isSome then { m with regexSet := c.value :: m.regexSet } else m
  | .domain =>
    if isAscii text then
      { m with subdomains := text.reverse :: m.subdomains, fullDomains := text :: m.fullDomains }
    else m
  | .full => { m with fullDomains := text :: m.fullDomains }

def DomainMatcher.new : DomainMatcher :=
  rules.foldl (DomainMatcher.add regex) {}

/-- The walk from the end of the name. It stops where no key goes on, and a key counts at the start
of a label. -/
def walk (keys : List Text) (consumed : Text) : Text → Bool
  | [] => false
  | b :: rest =>
    let consumed := consumed ++ [b]
    if ¬∃ k ∈ keys, consumed <+: k then false
    else if consumed ∈ keys ∧ rest.head?.all (· = dot) then true
    else walk keys consumed rest

def DomainMatcher.isMatchNormalized (normalized : Text) : Bool :=
  normalized ∈ m.fullDomains || walk m.subdomains [] normalized.reverse ||
    m.keywords.any (fun k => k <:+: normalized) || m.regexSet.any
      fun r => (regex r).any (· normalized)

def DomainConfig.Matches (d : Text) : Prop :=
  let text := normalizeDomainString c.value
  match c.matchType with
  | .plain => text <:+: d
  | .regex => (regex c.value).any (· d) = true
  | .domain => d = text ∨ dot :: text <:+ d
  | .full => d = text

def Faithful (d : Text) : Prop :=
  (DomainMatcher.new regex rules).isMatchNormalized regex d = true ↔ ∃ c ∈ rules, c.Matches regex d

def DomainConfig.Skipped : Prop :=
  match c.matchType with
  | .domain => isAscii (normalizeDomainString c.value) = false
  | _ => False

variable {keys : List Text}

theorem walk_iff {consumed rest : Text} : walk keys consumed rest = true ↔
    ∃ x y, x ≠ [] ∧ rest = x ++ y ∧ consumed ++ x ∈ keys ∧ y.head?.all (· = dot) := by
  induction rest generalizing consumed with
  | nil => simp [walk]
  | cons b rest ih =>
    -- the first label boundary is right behind `b` or further on
    have hsplit : (∃ x y, x ≠ [] ∧ b :: rest = x ++ y ∧ consumed ++ x ∈ keys ∧
      y.head?.all (· = dot)) ↔
        (consumed ++ [b] ∈ keys ∧ rest.head?.all (· = dot)) ∨
          walk keys (consumed ++ [b]) rest = true := by
      rw [ih]
      constructor
      · rintro ⟨- | ⟨a,x⟩,y,hx,heq,hmem,hy⟩
        · exact absurd rfl hx
        · obtain ⟨rfl,rfl⟩ := cons.inj heq
          by_cases hnil : x = []
          · subst hnil
            exact .inl ⟨hmem,hy⟩
          · exact .inr ⟨x,y,hnil,rfl,by simpa using hmem,hy⟩
      · rintro (⟨hmem,hy⟩ | ⟨x,y,-,rfl,hmem,hy⟩)
        · exact ⟨[b],rest,by simp,rfl,hmem,hy⟩
        · exact ⟨b :: x,y,by simp,rfl,by simpa using hmem,hy⟩
    rw [hsplit, walk]
    split
    · rename_i hdead
      simp only [Bool.false_eq_true, false_iff, ih, not_or]
      constructor
      · rintro ⟨hmem,-⟩
        exact hdead ⟨_,hmem,prefix_rfl⟩
      · rintro ⟨x,y,-,-,hmem,-⟩
        exact hdead ⟨_,hmem,prefix_append ..⟩
    · split
      · rename_i hkey
        exact iff_of_true rfl (.inl hkey)
      · rename_i hkey
        rw [or_iff_right hkey]

theorem walk_reverse_iff {d : Text} : walk keys [] d.reverse = true ↔
    ∃ k ∈ keys, k ≠ [] ∧ (d = k.reverse ∨ dot :: k.reverse <:+ d) := by
  have hlabel : ∀ k, (∃ y, d.reverse = k ++ y ∧ y.head?.all (· = dot)) ↔
      (d = k.reverse ∨ dot :: k.reverse <:+ d) := by
    intro k
    constructor
    · rintro ⟨- | ⟨b,y⟩,hd,hy⟩
      · exact .inl (by simpa using congrArg reverse hd)
      · obtain rfl : b = dot := by simpa using hy
        exact .inr ⟨y.reverse,by simpa using (congrArg reverse hd).symm⟩
    · rintro (rfl | ⟨p,rfl⟩)
      · exact ⟨[],by simp⟩
      · exact ⟨dot :: p.reverse,by simp⟩
  simp only [walk_iff, ← hlabel, nil_append]
  grind

theorem not_dot_suffix {d : Text} (hd : normalizeDomainString d = d) : ¬[dot] <:+ d := by
  rintro ⟨p,rfl⟩
  have hlen := congrArg length hd
  rw [normalizeDomainString, rdropWhile_concat_pos _ _ _ (by simp), length_map,
    length_append] at hlen
  have hle := ( rdropWhile_prefix (· = dot) (l := p)).length_le
  exact Nat.not_succ_le_self _ (hlen ▸ hle)

section
variable {regex : Engine} {d : Text} (hd : normalizeDomainString d = d)
include hd

/-- A rule adds what it is for, unless it is left out. -/
theorem isMatch_add (m : DomainMatcher) (c : DomainConfig) :
    (m.add regex c).isMatchNormalized regex d = true ↔
    m.isMatchNormalized regex d = true ∨ ¬c.Skipped ∧ c.Matches regex d := by
  obtain ⟨matchType,value⟩ := c
  have hlabel := not_dot_suffix hd
  cases matchType <;> simp only [DomainMatcher.add, DomainConfig.Skipped, DomainConfig.Matches]
  case domain =>
    split
    · rename_i hascii
      simp only [DomainMatcher.isMatchNormalized, Bool.or_eq_true, walk_reverse_iff,
        exists_mem_cons_iff, hascii]
      grind
    · simp_all
  case regex =>
    split
    · simp only [DomainMatcher.isMatchNormalized, any_cons]
      grind
    · simp_all
  all_goals
    simp only [DomainMatcher.isMatchNormalized, any_cons]
    grind

/-- The matcher is what the rules that it does not leave out are for. -/
theorem isMatch_new (rules : List DomainConfig) :
    (DomainMatcher.new regex rules).isMatchNormalized regex d = true ↔
    ∃ c ∈ rules, ¬c.Skipped ∧ c.Matches regex d := by
  have hfold : ∀ m : DomainMatcher, (rules.foldl (DomainMatcher.add regex) m).isMatchNormalized
    regex d = true ↔
      m.isMatchNormalized regex d = true ∨ ∃ c ∈ rules, ¬c.Skipped ∧ c.Matches regex d := by
    induction rules with
    | nil => simp
    | cons c rules ih =>
      intro m
      rw [foldl_cons, ih, isMatch_add hd]
      simp [or_assoc]
  rw [DomainMatcher.new, hfold]
  simp [DomainMatcher.isMatchNormalized, walk_reverse_iff]

/-- The matcher answers for a name as the rules do unless all rules that are for the name are left
out. -/
theorem faithful_iff (rules : List DomainConfig) : Faithful regex rules d ↔
    (∃ c ∈ rules, ¬c.Skipped ∧ c.Matches regex d) ∨ ∀ c ∈ rules, c.Skipped →
    ¬c.Matches regex d := by
  rw [Faithful, isMatch_new hd]
  grind

end

theorem not_matches_of_skipped {regex : Engine} {c : DomainConfig} {d : Text}
    (hascii : isAscii d = true) (hc : c.Skipped) : ¬c.Matches regex d := by
  obtain ⟨matchType,value⟩ := c
  cases matchType with
  | plain | regex | full => exact hc.elim
  | domain =>
    obtain ⟨b,hb,hbig⟩ := all_eq_false.mp hc
    have hmem : b ∉ d := fun h => hbig (all_eq_true.mp hascii b h)
    rintro (rfl | hsuffix)
    · exact hmem hb
    · exact hmem (hsuffix.subset (mem_cons_of_mem _ hb))

/-- For an ASCII name, such as `normalize_domain_name` makes of every name, the matcher is true
exactly if a rule is for the name. -/
theorem faithful_of_ascii {regex : Engine} {d : Text} (hd : normalizeDomainString d = d)
    (hascii : isAscii d = true) (rules : List DomainConfig) : Faithful regex rules d :=
  (faithful_iff hd rules).mpr (.inr fun _ _ => not_matches_of_skipped hascii)

def umlaut : Text := [195, 188, 46, 100, 101]

/- The name x.de beside a rule for de and one that is left out. -/
theorem faithful_of_ascii_sample :
    Faithful (fun _ => none) [⟨.domain,umlaut⟩, ⟨.domain,[100, 101]⟩] [120, 46, 100, 101] :=
  faithful_of_ascii (by decide) (by decide) _

/-- A rule that is left out is missed for a name beyond ASCII. -/
theorem faithful_fails : ¬∀ regex rules d, normalizeDomainString d = d →
    Faithful regex rules d := by
  intro h
  have hmatch := (h (fun _ => none) [⟨.domain,umlaut⟩] umlaut (by decide)).mpr
    ⟨_,mem_singleton_self _,.inl (by decide)⟩
  revert hmatch
  decide

end Landscape.Dns
