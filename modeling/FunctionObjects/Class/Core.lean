import FunctionObjects.Class.Info
/-!
# Core classes

The classes of the language core and of the modules for collections, numbers and dates, with what
each of them defines itself.  A class without bases here has the root as its base.
-/

namespace FunctionObjects.CoreClasses

structure Row where
  name : ClassName
  bases : List ClassName
  abstract : Bool
  traits : List (Trait × Bool)

set_option maxRecDepth 4000 in
def rows : List Row := [
  ⟨.core "object", [], false, [(.hash, true)]⟩,
  ⟨.core "int", [], false, []⟩,
  ⟨.core "bool", [.core "int"], false, []⟩,
  ⟨.core "memoryview", [], false, [(.iter, true), (.len, true)]⟩,
  ⟨.core "bytearray", [], false, [(.iter, true), (.len, true), (.contains, true), (.hash, false)]⟩,
  ⟨.core "bytes", [], false, [(.iter, true), (.len, true), (.contains, true)]⟩,
  ⟨.core "classmethod", [], false, []⟩,
  ⟨.core "complex", [], false, []⟩,
  ⟨.core "dict", [], false, [(.iter, true), (.len, true), (.contains, true), (.hash, false)]⟩,
  ⟨.core "enumerate", [], false, [(.iter, true), (.next, true)]⟩,
  ⟨.core "filter", [], false, [(.iter, true), (.next, true)]⟩,
  ⟨.core "float", [], false, []⟩,
  ⟨.core "frozenset", [], false, [(.iter, true), (.len, true), (.contains, true)]⟩,
  ⟨.core "property", [], false, []⟩,
  ⟨.core "list", [], false, [(.iter, true), (.len, true), (.contains, true), (.hash, false)]⟩,
  ⟨.core "map", [], false, [(.iter, true), (.next, true)]⟩,
  ⟨.core "range", [], false, [(.iter, true), (.len, true), (.contains, true)]⟩,
  ⟨.core "reversed", [], false, [(.iter, true), (.next, true)]⟩,
  ⟨.core "set", [], false, [(.iter, true), (.len, true), (.contains, true), (.hash, false)]⟩,
  ⟨.core "slice", [], false, [(.hash, false)]⟩,
  ⟨.core "staticmethod", [], false, [(.call, true)]⟩,
  ⟨.core "str", [], false, [(.iter, true), (.len, true), (.contains, true)]⟩,
  ⟨.core "super", [], false, []⟩,
  ⟨.core "tuple", [], false, [(.iter, true), (.len, true), (.contains, true)]⟩,
  ⟨.core "type", [], false, [(.call, true)]⟩,
  ⟨.core "zip", [], false, [(.iter, true), (.next, true)]⟩,
  ⟨.core "BaseException", [], false, []⟩,
  ⟨.core "BaseExceptionGroup", [.core "BaseException"], false, []⟩,
  ⟨.core "Exception", [.core "BaseException"], false, []⟩,
  ⟨.core "GeneratorExit", [.core "BaseException"], false, []⟩,
  ⟨.core "KeyboardInterrupt", [.core "BaseException"], false, []⟩,
  ⟨.core "SystemExit", [.core "BaseException"], false, []⟩,
  ⟨.core "ArithmeticError", [.core "Exception"], false, []⟩,
  ⟨.core "AssertionError", [.core "Exception"], false, []⟩,
  ⟨.core "AttributeError", [.core "Exception"], false, []⟩,
  ⟨.core "BufferError", [.core "Exception"], false, []⟩,
  ⟨.core "EOFError", [.core "Exception"], false, []⟩,
  ⟨.core "ImportError", [.core "Exception"], false, []⟩,
  ⟨.core "LookupError", [.core "Exception"], false, []⟩,
  ⟨.core "MemoryError", [.core "Exception"], false, []⟩,
  ⟨.core "NameError", [.core "Exception"], false, []⟩,
  ⟨.core "OSError", [.core "Exception"], false, []⟩,
  ⟨.core "ReferenceError", [.core "Exception"], false, []⟩,
  ⟨.core "RuntimeError", [.core "Exception"], false, []⟩,
  ⟨.core "StopAsyncIteration", [.core "Exception"], false, []⟩,
  ⟨.core "StopIteration", [.core "Exception"], false, []⟩,
  ⟨.core "SyntaxError", [.core "Exception"], false, []⟩,
  ⟨.core "SystemError", [.core "Exception"], false, []⟩,
  ⟨.core "TypeError", [.core "Exception"], false, []⟩,
  ⟨.core "ValueError", [.core "Exception"], false, []⟩,
  ⟨.core "Warning", [.core "Exception"], false, []⟩,
  ⟨.core "FloatingPointError", [.core "ArithmeticError"], false, []⟩,
  ⟨.core "OverflowError", [.core "ArithmeticError"], false, []⟩,
  ⟨.core "ZeroDivisionError", [.core "ArithmeticError"], false, []⟩,
  ⟨.core "BytesWarning", [.core "Warning"], false, []⟩,
  ⟨.core "DeprecationWarning", [.core "Warning"], false, []⟩,
  ⟨.core "EncodingWarning", [.core "Warning"], false, []⟩,
  ⟨.core "FutureWarning", [.core "Warning"], false, []⟩,
  ⟨.core "ImportWarning", [.core "Warning"], false, []⟩,
  ⟨.core "PendingDeprecationWarning", [.core "Warning"], false, []⟩,
  ⟨.core "ResourceWarning", [.core "Warning"], false, []⟩,
  ⟨.core "RuntimeWarning", [.core "Warning"], false, []⟩,
  ⟨.core "SyntaxWarning", [.core "Warning"], false, []⟩,
  ⟨.core "UnicodeWarning", [.core "Warning"], false, []⟩,
  ⟨.core "UserWarning", [.core "Warning"], false, []⟩,
  ⟨.core "BlockingIOError", [.core "OSError"], false, []⟩,
  ⟨.core "ChildProcessError", [.core "OSError"], false, []⟩,
  ⟨.core "ConnectionError", [.core "OSError"], false, []⟩,
  ⟨.core "FileExistsError", [.core "OSError"], false, []⟩,
  ⟨.core "FileNotFoundError", [.core "OSError"], false, []⟩,
  ⟨.core "InterruptedError", [.core "OSError"], false, []⟩,
  ⟨.core "IsADirectoryError", [.core "OSError"], false, []⟩,
  ⟨.core "NotADirectoryError", [.core "OSError"], false, []⟩,
  ⟨.core "PermissionError", [.core "OSError"], false, []⟩,
  ⟨.core "ProcessLookupError", [.core "OSError"], false, []⟩,
  ⟨.core "TimeoutError", [.core "OSError"], false, []⟩,
  ⟨.core "IndentationError", [.core "SyntaxError"], false, []⟩,
  ⟨.core "IndexError", [.core "LookupError"], false, []⟩,
  ⟨.core "KeyError", [.core "LookupError"], false, []⟩,
  ⟨.core "ModuleNotFoundError", [.core "ImportError"], false, []⟩,
  ⟨.core "NotImplementedError", [.core "RuntimeError"], false, []⟩,
  ⟨.core "RecursionError", [.core "RuntimeError"], false, []⟩,
  ⟨.core "UnboundLocalError", [.core "NameError"], false, []⟩,
  ⟨.core "UnicodeError", [.core "ValueError"], false, []⟩,
  ⟨.core "BrokenPipeError", [.core "ConnectionError"], false, []⟩,
  ⟨.core "ConnectionAbortedError", [.core "ConnectionError"], false, []⟩,
  ⟨.core "ConnectionRefusedError", [.core "ConnectionError"], false, []⟩,
  ⟨.core "ConnectionResetError", [.core "ConnectionError"], false, []⟩,
  ⟨.core "TabError", [.core "IndentationError"], false, []⟩,
  ⟨.core "UnicodeDecodeError", [.core "UnicodeError"], false, []⟩,
  ⟨.core "UnicodeEncodeError", [.core "UnicodeError"], false, []⟩,
  ⟨.core "UnicodeTranslateError", [.core "UnicodeError"], false, []⟩,
  ⟨.core "ExceptionGroup", [.core "BaseExceptionGroup", .core "Exception"], false, []⟩,
  ⟨⟨"collections", "deque"⟩, [], false, [(.iter, true), (.len, true), (.contains, true), (.hash, false)]⟩,
  ⟨⟨"collections", "defaultdict"⟩, [.core "dict"], false, []⟩,
  ⟨⟨"collections.abc", "Sized"⟩, [], true, [(.len, true)]⟩,
  ⟨⟨"collections.abc", "MappingView"⟩, [⟨"collections.abc", "Sized"⟩], false, [(.len, true)]⟩,
  ⟨⟨"collections.abc", "Iterable"⟩, [], true, [(.iter, true)]⟩,
  ⟨⟨"collections.abc", "Container"⟩, [], true, [(.contains, true)]⟩,
  ⟨⟨"collections.abc", "Collection"⟩, [⟨"collections.abc", "Sized"⟩, ⟨"collections.abc", "Iterable"⟩, ⟨"collections.abc", "Container"⟩], false, []⟩,
  ⟨⟨"collections.abc", "Set"⟩, [⟨"collections.abc", "Collection"⟩], false, [(.hash, false)]⟩,
  ⟨⟨"collections.abc", "KeysView"⟩, [⟨"collections.abc", "MappingView"⟩, ⟨"collections.abc", "Set"⟩], false, [(.iter, true), (.contains, true)]⟩,
  ⟨⟨"collections.abc", "ItemsView"⟩, [⟨"collections.abc", "MappingView"⟩, ⟨"collections.abc", "Set"⟩], false, [(.iter, true), (.contains, true)]⟩,
  ⟨⟨"collections.abc", "ValuesView"⟩, [⟨"collections.abc", "MappingView"⟩, ⟨"collections.abc", "Collection"⟩], false, [(.iter, true), (.contains, true)]⟩,
  ⟨⟨"collections", "OrderedDict"⟩, [.core "dict"], false, [(.iter, true), (.hash, false)]⟩,
  ⟨⟨"collections", "Counter"⟩, [.core "dict"], false, [(.hash, false)]⟩,
  ⟨⟨"collections.abc", "Mapping"⟩, [⟨"collections.abc", "Collection"⟩], false, [(.contains, true), (.hash, false)]⟩,
  ⟨⟨"collections.abc", "MutableMapping"⟩, [⟨"collections.abc", "Mapping"⟩], false, []⟩,
  ⟨⟨"collections", "ChainMap"⟩, [⟨"collections.abc", "MutableMapping"⟩], false, [(.iter, true), (.len, true), (.contains, true)]⟩,
  ⟨⟨"collections", "UserDict"⟩, [⟨"collections.abc", "MutableMapping"⟩], false, [(.iter, true), (.len, true), (.contains, true)]⟩,
  ⟨⟨"collections.abc", "Reversible"⟩, [⟨"collections.abc", "Iterable"⟩], false, []⟩,
  ⟨⟨"collections.abc", "Sequence"⟩, [⟨"collections.abc", "Reversible"⟩, ⟨"collections.abc", "Collection"⟩], false, [(.iter, true), (.contains, true)]⟩,
  ⟨⟨"collections.abc", "MutableSequence"⟩, [⟨"collections.abc", "Sequence"⟩], false, []⟩,
  ⟨⟨"collections", "UserList"⟩, [⟨"collections.abc", "MutableSequence"⟩], false, [(.len, true), (.contains, true), (.hash, false)]⟩,
  ⟨⟨"collections", "UserString"⟩, [⟨"collections.abc", "Sequence"⟩], false, [(.len, true), (.contains, true)]⟩,
  ⟨⟨"collections.abc", "Awaitable"⟩, [], true, []⟩,
  ⟨⟨"collections.abc", "Coroutine"⟩, [⟨"collections.abc", "Awaitable"⟩], false, []⟩,
  ⟨⟨"collections.abc", "AsyncIterable"⟩, [], true, []⟩,
  ⟨⟨"collections.abc", "AsyncIterator"⟩, [⟨"collections.abc", "AsyncIterable"⟩], false, []⟩,
  ⟨⟨"collections.abc", "AsyncGenerator"⟩, [⟨"collections.abc", "AsyncIterator"⟩], false, []⟩,
  ⟨⟨"collections.abc", "Hashable"⟩, [], true, []⟩,
  ⟨⟨"collections.abc", "Iterator"⟩, [⟨"collections.abc", "Iterable"⟩], false, [(.iter, true), (.next, true)]⟩,
  ⟨⟨"collections.abc", "Generator"⟩, [⟨"collections.abc", "Iterator"⟩], false, [(.next, true)]⟩,
  ⟨⟨"collections.abc", "Callable"⟩, [], true, [(.call, true)]⟩,
  ⟨⟨"collections.abc", "MutableSet"⟩, [⟨"collections.abc", "Set"⟩], false, []⟩,
  ⟨⟨"collections.abc", "ByteString"⟩, [⟨"collections.abc", "Sequence"⟩], false, []⟩,
  ⟨⟨"types", "GenericAlias"⟩, [], false, [(.iter, true), (.call, true)]⟩,
  ⟨⟨"datetime", "timedelta"⟩, [], false, []⟩,
  ⟨⟨"datetime", "date"⟩, [], false, []⟩,
  ⟨⟨"datetime", "tzinfo"⟩, [], false, []⟩,
  ⟨⟨"datetime", "time"⟩, [], false, []⟩,
  ⟨⟨"datetime", "datetime"⟩, [⟨"datetime", "date"⟩], false, []⟩,
  ⟨⟨"datetime", "timezone"⟩, [⟨"datetime", "tzinfo"⟩], false, []⟩,
  ⟨⟨"decimal", "Decimal"⟩, [], false, []⟩,
  ⟨⟨"decimal", "Context"⟩, [], false, []⟩,
  ⟨⟨"decimal", "DecimalTuple"⟩, [.core "tuple"], false, []⟩,
  ⟨⟨"decimal", "DecimalException"⟩, [.core "ArithmeticError"], false, []⟩,
  ⟨⟨"decimal", "Clamped"⟩, [⟨"decimal", "DecimalException"⟩], false, []⟩,
  ⟨⟨"decimal", "Rounded"⟩, [⟨"decimal", "DecimalException"⟩], false, []⟩,
  ⟨⟨"decimal", "Inexact"⟩, [⟨"decimal", "DecimalException"⟩], false, []⟩,
  ⟨⟨"decimal", "Subnormal"⟩, [⟨"decimal", "DecimalException"⟩], false, []⟩,
  ⟨⟨"decimal", "Underflow"⟩, [⟨"decimal", "Inexact"⟩, ⟨"decimal", "Rounded"⟩, ⟨"decimal", "Subnormal"⟩], false, []⟩,
  ⟨⟨"decimal", "Overflow"⟩, [⟨"decimal", "Inexact"⟩, ⟨"decimal", "Rounded"⟩], false, []⟩,
  ⟨⟨"decimal", "DivisionByZero"⟩, [⟨"decimal", "DecimalException"⟩, .core "ZeroDivisionError"], false, []⟩,
  ⟨⟨"decimal", "FloatOperation"⟩, [⟨"decimal", "DecimalException"⟩, .core "TypeError"], false, []⟩,
  ⟨⟨"decimal", "InvalidOperation"⟩, [⟨"decimal", "DecimalException"⟩], false, []⟩,
  ⟨⟨"decimal", "ConversionSyntax"⟩, [⟨"decimal", "InvalidOperation"⟩], false, []⟩,
  ⟨⟨"decimal", "DivisionImpossible"⟩, [⟨"decimal", "InvalidOperation"⟩], false, []⟩,
  ⟨⟨"decimal", "DivisionUndefined"⟩, [⟨"decimal", "InvalidOperation"⟩, .core "ZeroDivisionError"], false, []⟩,
  ⟨⟨"decimal", "InvalidContext"⟩, [⟨"decimal", "InvalidOperation"⟩], false, []⟩,
  ⟨⟨"numbers", "Number"⟩, [], true, [(.hash, false)]⟩,
  ⟨⟨"numbers", "Complex"⟩, [⟨"numbers", "Number"⟩], false, [(.hash, false)]⟩,
  ⟨⟨"numbers", "Real"⟩, [⟨"numbers", "Complex"⟩], false, []⟩,
  ⟨⟨"numbers", "Rational"⟩, [⟨"numbers", "Real"⟩], false, []⟩,
  ⟨⟨"fractions", "Fraction"⟩, [⟨"numbers", "Rational"⟩], false, [(.hash, true)]⟩,
  ⟨⟨"abc", "ABCMeta"⟩, [.core "type"], false, []⟩,
  ⟨⟨"numbers", "Integral"⟩, [⟨"numbers", "Rational"⟩], false, []⟩,
  ⟨⟨"os", "stat_result"⟩, [.core "tuple"], false, []⟩,
  ⟨⟨"os", "terminal_size"⟩, [.core "tuple"], false, []⟩,
  ⟨⟨"posix", "DirEntry"⟩, [], false, []⟩,
  ⟨⟨"abc", "ABC"⟩, [], true, []⟩,
  ⟨⟨"os", "PathLike"⟩, [⟨"abc", "ABC"⟩], false, []⟩,
  ⟨⟨"posix", "times_result"⟩, [.core "tuple"], false, []⟩,
  ⟨⟨"posix", "uname_result"⟩, [.core "tuple"], false, []⟩,
  ⟨⟨"typing", "Generic"⟩, [], false, []⟩,
  ⟨⟨"typing", "ForwardRef"⟩, [], false, []⟩,
  ⟨⟨"typing", "TypeVar"⟩, [], false, []⟩,
  ⟨.core "function", [], false, [(.call, true)]⟩,
  ⟨.core "builtin_function_or_method", [], false, [(.call, true)]⟩,
  ⟨.core "list_iterator", [], false, [(.iter, true), (.next, true)]⟩,
  ⟨.core "dict_keys", [], false, [(.iter, true), (.len, true), (.contains, true), (.hash, false)]⟩,
  ⟨.core "NoneType", [], false, []⟩,
  ⟨.core "ellipsis", [], false, []⟩,
  ⟨.core "NotImplementedType", [], false, []⟩,
  ⟨⟨"types", "UnionType"⟩, [], false, []⟩,
  ⟨⟨"re", "Pattern"⟩, [], false, []⟩,
  ⟨⟨"enum", "Enum"⟩, [], false, []⟩,
  ⟨.core "list_reverseiterator", [], false, [(.iter, true), (.next, true)]⟩,
  ⟨.core "method", [], false, [(.call, true)]⟩,
  ⟨.core "module", [], false, []⟩,
  ⟨⟨"typing", "Protocol"⟩, [⟨"typing", "Generic"⟩], true, []⟩,
  ⟨⟨"typing", "SupportsInt"⟩, [⟨"typing", "Protocol"⟩], false, []⟩,
  ⟨⟨"typing", "SupportsFloat"⟩, [⟨"typing", "Protocol"⟩], false, []⟩,
  ⟨⟨"typing", "SupportsIndex"⟩, [⟨"typing", "Protocol"⟩], false, []⟩,
  ⟨⟨"typing", "SupportsAbs"⟩, [⟨"typing", "Protocol"⟩], false, []⟩,
  ⟨⟨"typing", "SupportsRound"⟩, [⟨"typing", "Protocol"⟩], false, []⟩,
  ⟨⟨"typing", "SupportsBytes"⟩, [⟨"typing", "Protocol"⟩], false, []⟩,
  ⟨⟨"typing", "SupportsComplex"⟩, [⟨"typing", "Protocol"⟩], false, []⟩,
  ⟨⟨"typing", "IO"⟩, [⟨"typing", "Generic"⟩], false, []⟩,
  ⟨⟨"typing", "TextIO"⟩, [⟨"typing", "IO"⟩], false, []⟩,
  ⟨⟨"typing", "BinaryIO"⟩, [⟨"typing", "IO"⟩], false, []⟩,
  ⟨⟨"typing", "ParamSpec"⟩, [], false, []⟩,
  ⟨⟨"typing", "TypeVarTuple"⟩, [], false, [(.iter, true)]⟩,
  ⟨⟨"typing", "NewType"⟩, [], false, [(.call, true)]⟩,
  ⟨⟨"typing", "ParamSpecArgs"⟩, [], false, [(.hash, false)]⟩,
  ⟨⟨"typing", "ParamSpecKwargs"⟩, [], false, [(.hash, false)]⟩]

/-- Interfaces that classes of the core are declared to satisfy. -/
def declared : List (ClassName × ClassName) := [
  (.core "int", ⟨"numbers", "Integral"⟩),
  (.core "float", ⟨"numbers", "Real"⟩),
  (.core "complex", ⟨"numbers", "Complex"⟩),
  (⟨"decimal", "Decimal"⟩, ⟨"numbers", "Number"⟩),
  (.core "tuple", ⟨"collections.abc", "Sequence"⟩),
  (.core "str", ⟨"collections.abc", "Sequence"⟩),
  (.core "range", ⟨"collections.abc", "Sequence"⟩),
  (.core "memoryview", ⟨"collections.abc", "Sequence"⟩),
  (.core "bytes", ⟨"collections.abc", "ByteString"⟩),
  (.core "bytearray", ⟨"collections.abc", "ByteString"⟩),
  (.core "bytearray", ⟨"collections.abc", "MutableSequence"⟩),
  (.core "list", ⟨"collections.abc", "MutableSequence"⟩),
  (⟨"collections", "deque"⟩, ⟨"collections.abc", "MutableSequence"⟩),
  (.core "dict", ⟨"collections.abc", "MutableMapping"⟩),
  (.core "set", ⟨"collections.abc", "MutableSet"⟩),
  (.core "frozenset", ⟨"collections.abc", "Set"⟩),
  (.core "dict_keys", ⟨"collections.abc", "KeysView"⟩),
  (⟨"numpy", "integer"⟩, ⟨"numbers", "Integral"⟩),
  (⟨"numpy", "inexact"⟩, ⟨"numbers", "Complex"⟩),
  (⟨"numpy", "floating"⟩, ⟨"numbers", "Real"⟩),
  (⟨"numpy", "number"⟩, ⟨"numbers", "Number"⟩)]

/-- The interfaces that a class satisfies as soon as it defines some operations. -/
def hooks : List (ClassName × List Trait) := [
  (⟨"collections.abc", "Hashable"⟩, [.hash]),
  (⟨"collections.abc", "Iterable"⟩, [.iter]),
  (⟨"collections.abc", "Iterator"⟩, [.iter, .next]),
  (⟨"collections.abc", "Sized"⟩, [.len]),
  (⟨"collections.abc", "Container"⟩, [.contains]),
  (⟨"collections.abc", "Collection"⟩, [.iter, .len, .contains]),
  (⟨"collections.abc", "Callable"⟩, [.call])]

end FunctionObjects.CoreClasses

/-!
## Classes of sized scalars

The hierarchy of numbers of a fixed width and of the texts and truth values that go with them.
-/

namespace FunctionObjects.SizedClasses

def np (name : String) : ClassName := ⟨"numpy", name⟩

def rows : List CoreClasses.Row := [
  ⟨np "generic", [], false, []⟩,
  ⟨np "number", [np "generic"], false, []⟩,
  ⟨np "integer", [np "number"], false, []⟩,
  ⟨np "signedinteger", [np "integer"], false, []⟩,
  ⟨np "unsignedinteger", [np "integer"], false, []⟩,
  ⟨np "inexact", [np "number"], false, []⟩,
  ⟨np "floating", [np "inexact"], false, []⟩,
  ⟨np "complexfloating", [np "inexact"], false, []⟩,
  ⟨np "int8", [np "signedinteger"], false, []⟩,
  ⟨np "int16", [np "signedinteger"], false, []⟩,
  ⟨np "int32", [np "signedinteger"], false, []⟩,
  ⟨np "int64", [np "signedinteger"], false, []⟩,
  ⟨np "longlong", [np "signedinteger"], false, []⟩,
  ⟨np "timedelta64", [np "signedinteger"], false, []⟩,
  ⟨np "uint8", [np "unsignedinteger"], false, []⟩,
  ⟨np "uint16", [np "unsignedinteger"], false, []⟩,
  ⟨np "uint32", [np "unsignedinteger"], false, []⟩,
  ⟨np "uint64", [np "unsignedinteger"], false, []⟩,
  ⟨np "ulonglong", [np "unsignedinteger"], false, []⟩,
  ⟨np "float16", [np "floating"], false, []⟩,
  ⟨np "float32", [np "floating"], false, []⟩,
  ⟨np "float64", [np "floating", .core "float"], false, []⟩,
  ⟨np "longdouble", [np "floating"], false, []⟩,
  ⟨np "complex64", [np "complexfloating"], false, []⟩,
  ⟨np "complex128", [np "complexfloating", .core "complex"], false, []⟩,
  ⟨np "clongdouble", [np "complexfloating"], false, []⟩,
  ⟨np "bool", [np "generic"], false, []⟩,
  ⟨np "datetime64", [np "generic"], false, []⟩,
  ⟨np "object_", [np "generic"], false, []⟩,
  ⟨np "flexible", [np "generic"], false, []⟩,
  ⟨np "character", [np "flexible"], false, []⟩,
  ⟨np "void", [np "flexible"], false, []⟩,
  ⟨np "str_", [.core "str", np "character"], false, []⟩,
  ⟨np "bytes_", [.core "bytes", np "character"], false, []⟩,
  ⟨np "ndarray", [], false, [(.iter, true), (.len, true), (.contains, true), (.hash, false)]⟩,
  ⟨np "dtype", [], false, []⟩,
  ⟨np "ufunc", [], false, [(.call, true)]⟩]

end FunctionObjects.SizedClasses
