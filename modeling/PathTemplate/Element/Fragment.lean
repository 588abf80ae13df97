import PathTemplate.Element
import PathTemplate.Regex.Written

/-!
# What an element contributes to the pattern

- `Element.fragment`    : its part of the text of the pattern
- `Element.expressions` : what this text denotes

A constraint is free text: together with the text around it, it may denote something else than a
part of its own.  `Element.expressions` is therefore for elements without a constraint.
-/

namespace PathTemplate

/-! ## As text -/

/-- Slash-free text, as little as possible. -/
def anyValue : Text := "[^/]*?".toList

/-- Slash-free text, as little as possible but not empty. -/
def someValue : Text := "[^/]+?".toList

def Variable.valuePattern (v : Variable) : Text := v.constraint.getD someValue

/-- One of the pairs of a name and a value. -/
def Operator.pairPattern (o : Operator) : Text :=
  inParens (Text.join ['|'] (o.names.map fun n => inParens (Pattern.escape n ++ '=' :: anyValue)))

/-- An operator's part of the pattern. -/
def Operator.fragment (o : Operator) : Text :=
  let arg := Pattern.escape o.arg
  match o.kind with
  | .negate | .option => inGroup arg ++ ['?']
  | .before => inGroup (inParens (arg ++ anyValue) ++ ['*'])
  | .after => inGroup (inParens (anyValue ++ arg) ++ ['*'])
  | .list => inGroup (anyValue ++ inParens (arg ++ anyValue) ++ ['*'])
  | .join =>
      inGroup (o.pairPattern ++ inParens (arg ++ o.pairPattern) ++ ['*']) ++ ['?']

def Element.fragment : Element → Text
  | .literal t => Pattern.escape t
  | .variable v => inGroup v.valuePattern
  | .operator o => o.fragment

/-! ## As an expression -/

def Operator.pairs (o : Operator) : Pattern :=
  .alts (o.names.map fun n => .seqs (Pattern.ofChars n ++ [.chars (.single '='), .anyValue]))

def Operator.expression (o : Operator) : Pattern :=
  let arg := Pattern.ofChars o.arg
  match o.kind with
  | .negate | .option => .optional (.group o.group (.seqs arg))
  | .before => .group o.group (.many (.seqs (arg ++ [.anyValue])))
  | .after => .group o.group (.many (.seqs (.anyValue :: arg)))
  | .list => .group o.group (.seqs [.anyValue, .many (.seqs (arg ++ [.anyValue]))])
  | .join =>
      .optional (.group o.group (.seqs [o.pairs, .many (.seqs (arg ++ [o.pairs]))]))

/-- The expressions in a row that an element without a constraint contributes. -/
def Element.expressions : Element → List Pattern
  | .literal t => Pattern.ofChars t
  | .variable v => [.group v.group .someValue]
  | .operator o => [o.expression]

end PathTemplate
