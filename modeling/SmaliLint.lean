import SmaliLint.Main
import SmaliLint.Program
import SmaliLint.Proofs.Lexer.LineLocal
import SmaliLint.Proofs.Lexer.LongestMatch
import SmaliLint.Proofs.Lexer.Partition
import SmaliLint.Proofs.Server.Publication
import SmaliLint.Proofs.Server.Session
import SmaliLint.Proofs.Validation.LineByLine
import SmaliLint.Proofs.Validation.LineEndings
import SmaliLint.Proofs.Validation.Severity
import SmaliLint.Proofs.Position.Offset
import SmaliLint.Proofs.Position.Galois
import SmaliLint.Proofs.Position.LineStarts
import SmaliLint.Proofs.Document.History
import SmaliLint.Proofs.Report.Agreement
import SmaliLint.Proofs.Server.IncrementalSync
import SmaliLint.Proofs.Method.History
import SmaliLint.Proofs.Method.Blocks
import SmaliLint.Proofs.Header.Acceptance
import SmaliLint.Proofs.Pattern.Beginnings
import SmaliLint.Proofs.Lexer.Words
import SmaliLint.Proofs.ClassFile.Syntax
import SmaliLint.Proofs.ClassFile.Tokens
import SmaliLint.Proofs.Validation.Unplaced
import SmaliLint.Proofs.Method.Declaration
import SmaliLint.Proofs.ClassFile.Lines
import SmaliLint.Proofs.Method.Silence
import SmaliLint.Proofs.ClassFile.Clean
import SmaliLint.Proofs.Validation.Independence
import SmaliLint.Proofs.Validation.InertLines
import SmaliLint.Proofs.Server.PublishedRange
import SmaliLint.Proofs.Access.Checks
import SmaliLint.Proofs.Access.Total
import SmaliLint.Proofs.Lexer.Spacing
import SmaliLint.Proofs.Method.Grammar
import SmaliLint.Proofs.Method.Returns
import SmaliLint.Proofs.Method.Constructors
import SmaliLint.Proofs.Header.Singletons
import SmaliLint.Proofs.Validation.OneLine
import SmaliLint.Proofs.Report.Carets
import SmaliLint.Proofs.Report.Ordering
import SmaliLint.Proofs.Report.Files
import SmaliLint.Proofs.Outcome
import SmaliLint.Proofs.Document.Failure
import SmaliLint.Proofs.Lexer.Names
import SmaliLint.Proofs.Toml.Writing
import SmaliLint.Proofs.Options.Overrides
import SmaliLint.Proofs.Options.Faults
import SmaliLint.Proofs.Line.Assembly
import SmaliLint.Proofs.Lexer.Alone
