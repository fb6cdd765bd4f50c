import PgmanProxy.Library.GoStrings

/-!
# Subjects and subscription patterns of a publish-subscribe server

A subject is a text of tokens between dots. In a subscription pattern `*` stands
for any one token, and `>` in the last place for one token or more.
-/

namespace PgmanProxy.Library.Subjects

open PgmanProxy.Library.GoStrings

set_option autoImplicit false

def tokens (subject : String) : List String := split '.' subject

def matchTokens : List String → List String → Bool
  | [], subject => subject.isEmpty
  | _ :: _, [] => false
  | want :: pattern, token :: subject =>
      if want = ">" && pattern.isEmpty then true
      else (want = "*" || want = token) && matchTokens pattern subject

/-- Whether a subscription to `pattern` receives what is published on `subject`. -/
def Delivers (pattern subject : String) : Bool := matchTokens (tokens pattern) (tokens subject)

example : Delivers "a.*.c" "a.b.c" ∧ Delivers "a.>" "a.b.c" ∧ ¬ Delivers "a.>" "a" := by decide

theorem tokens_dot (left right : String) :
    tokens (left ++ "." ++ right) = tokens left ++ tokens right := by
  have runes : (left ++ "." ++ right).toList = left.toList ++ '.' :: right.toList := by
    simp
  unfold tokens split
  rw [runes, List.splitOn_append_cons_self, List.map_append]

theorem tokens_plain (text : String) (dotless : '.' ∉ text.toList) : tokens text = [text] := by
  unfold tokens split
  rw [List.splitOn_eq_singleton dotless, List.map_singleton, String.ofList_toList]

theorem not_rest (text : String) (markless : '>' ∉ text.toList) : text ≠ ">" := by
  rintro rfl
  exact markless (by decide)

theorem tokens_nonempty (text : String) : ∃ first rest, tokens text = first :: rest := by
  cases found : tokens text with
  | nil =>
      unfold tokens split at found
      exact absurd (List.map_eq_nil_iff.1 found) (List.splitOn_ne_nil _ _)
  | cons first rest => exact ⟨first, rest, rfl⟩

/-- A token other than `>` matches itself, also when it is `*`. -/
theorem match_same (token : String) (pattern subject : List String) (single : token ≠ ">") :
    matchTokens (token :: pattern) (token :: subject) = matchTokens pattern subject := by
  simp [matchTokens, single]

/-- A token that is no wildcard matches only itself. -/
theorem match_literal (want token : String) (pattern subject : List String)
    (single : want ≠ ">") (literal : want ≠ "*") :
    matchTokens (want :: pattern) (token :: subject) =
      (decide (want = token) && matchTokens pattern subject) := by
  simp [matchTokens, single, literal]

theorem match_any (token : String) : matchTokens ["*"] [token] = true := by
  simp [matchTokens]

theorem match_rest (token : String) (subject : List String) :
    matchTokens [">"] (token :: subject) = true := by
  simp [matchTokens]

/-- Tokens that pattern and subject share in front can be left out. -/
theorem match_lead (lead pattern subject : List String) (singles : ∀ token ∈ lead, token ≠ ">") :
    matchTokens (lead ++ pattern) (lead ++ subject) = matchTokens pattern subject := by
  induction lead with
  | nil => rfl
  | cons token lead ih =>
      have rest : ∀ other ∈ lead, other ≠ ">" := by
        intro other present
        exact singles other (List.mem_cons_of_mem token present)
      have single : token ≠ ">" := singles token List.mem_cons_self
      rw [List.cons_append, List.cons_append, match_same _ _ _ single]
      exact ih rest

end PgmanProxy.Library.Subjects
