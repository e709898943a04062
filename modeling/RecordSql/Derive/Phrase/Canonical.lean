import RecordSql.Derive.Phrase.Item

/-! The words of a type in the one form that generated text gives it. -/

namespace RecordSql.Derive

/-- Write a phrase. The bound is on the depth of phrases inside phrases; below it all is kept as it
is. -/
def Phrase.write : Nat → Phrase → Writer
  | 0, _ => Writer.all
  | depth + 1, phrase =>
    match phrase with
    | .type plus => Writer.typeWriter (write depth) plus
    | .bounds plus => Writer.boundsWriter (write depth) plus
    | .pattern ends => Writer.patternWriter (write depth) ends
    | .expression braces => Writer.expressionWriter (write depth) braces
    | .step => Writer.stepWriter (write depth)
    | .statements => Writer.statementsWriter (write depth)
    | .items site => Writer.itemsWriter (write depth) site

def Tree.typeWords (type : List Tree) : List String :=
  let (ws, rest) := (Phrase.write (4 * Tree.sizeOf type + 4) (.type true)).run type
  ws ++ Tree.wordsOf rest

end RecordSql.Derive
