import EchoProbe.Proofs.Settings.Expansion
import EchoProbe.Proofs.Toml.Parser
import EchoProbe.Settings.Decoding

/-!
# Comments in front of a document

Placeholders are replaced before a text is read as TOML, in comments as anywhere else.
So a comment can change what the text says: a placeholder that opens in it and does not
end there swallows the lines that follow, and the value of one that does can break the
line (`comment_not_inert`). Every other comment plays no part (`fromDocument_comment`).
-/

namespace EchoProbe.Settings

open Toml (isCommentChar)
open Environment (Closed)

/-- **A comment in front of a document** plays no part, if each of its placeholders ends
in it and it is a comment still when they are replaced: the document gives the same
settings, or it gives none with or without the comment. It must not begin with a mark,
which may stand at the front of a text only. -/
theorem fromDocument_comment (env : Environment) {comment text : String}
    (hclosed : Closed comment.toList)
    (hcomment : ∀ c ∈ (env.expand comment).toList, isCommentChar c = true)
    (hmark : (env.expand text).toList.head? ≠ some '\uFEFF') :
    (fromDocument env ("#" ++ comment ++ "\n" ++ text)).toOption
      = (fromDocument env text).toOption := by
  have hexpand : env.expand ("#" ++ comment ++ "\n" ++ text)
      = "#" ++ env.expand comment ++ "\n" ++ env.expand text := by
    have htext : ("#" ++ comment ++ "\n" ++ text).toList
        = '#' :: (comment.toList ++ '\n' :: text.toList) := by
      simp
    have hhash : env.expandChars ('#' :: (comment.toList ++ '\n' :: text.toList))
        = '#' :: env.expandChars (comment.toList ++ '\n' :: text.toList) :=
      env.expandChars_cons (by rintro ⟨⟨⟩, -⟩)
    have hline : env.expandChars ('\n' :: text.toList) = '\n' :: env.expandChars text.toList :=
      env.expandChars_cons (by rintro ⟨⟨⟩, -⟩)
    apply String.toList_inj.mp
    rw [Environment.expand, htext, hhash, env.expandChars_append hclosed (by rintro ⟨⟩), hline]
    simp [Environment.expand]
  rw [fromDocument, fromDocument, hexpand, Toml.parse_comment hcomment hmark]

/-- A comment that is nothing but a placeholder, and what follows it. -/
theorem fromDocument_comment_placeholder :
    (fromDocument (Environment.empty.set "NAME" "value")
        ("#" ++ "$\x7bNAME\x7d" ++ "\n" ++ "[upstream]\nport = 1\n")).toOption
      = (fromDocument (Environment.empty.set "NAME" "value") "[upstream]\nport = 1\n").toOption := by
  have htext : "$\x7bNAME\x7d".toList = '$' :: '{' :: (['N', 'A', 'M', 'E'] ++ '}' :: []) := by
    decide +kernel
  have hclosed : Closed "$\x7bNAME\x7d".toList := by
    rw [htext]
    exact .placeholder (by decide) .nil
  have hcomment : ((Environment.empty.set "NAME" "value").expand "$\x7bNAME\x7d").toList.all
      isCommentChar = true := by decide +kernel
  exact fromDocument_comment _ hclosed (List.all_eq_true.mp hcomment) (by decide +kernel)

/-- **Not every comment is inert.** A placeholder that does not end in it swallows what
follows; a value that breaks the line says something of its own; and a mark does not stand
at the front any more. -/
theorem comment_not_inert :
    (fromDocument .empty ("#" ++ "$\x7b" ++ "\n" ++ "[upstream]\nport = 1\n")).toOption
        ≠ (fromDocument .empty "[upstream]\nport = 1\n").toOption ∧
      (fromDocument (Environment.empty.set "A" "x\n[upstream]\nport = 5")
          ("#" ++ "$\x7bA\x7d" ++ "\n" ++ "")).toOption
        ≠ (fromDocument (Environment.empty.set "A" "x\n[upstream]\nport = 5") "").toOption ∧
      (fromDocument .empty ("#" ++ "" ++ "\n" ++ "\uFEFF")).toOption
        ≠ (fromDocument .empty "\uFEFF").toOption := by
  let port : Option Settings → Option UInt16 := Option.map (·.server.port)
  refine ⟨ne_of_apply_ne port ?_, ne_of_apply_ne port ?_, ne_of_apply_ne port ?_⟩
  · -- 3001, and not 1
    decide +kernel
  · -- 5, and not 3001
    decide +kernel
  · -- none, and not 3001
    decide +kernel

end EchoProbe.Settings
