import FunctionObjects.Class.Table
/-!
# Names of classes

Modules, the classes that can be reached through each of them, and the modules inside them.  A
dotted name is looked up through the longest prefix that is a module and goes on by attributes.
-/

namespace FunctionObjects

/-- What can be reached through a module. -/
structure Module where
  name : String
  /-- The classes that it defines. -/
  own : List String
  /-- Classes of other modules, under their own names. -/
  shared : List (String × List String)
  /-- Classes under other names. -/
  renamed : List (String × ClassName)
  /-- Other modules, by the names that they have here. -/
  inner : List (String × String)

namespace Module

/-- The modules of the core. -/
def standard : List Module := [
  ⟨"builtins",
    ["bool", "memoryview", "bytearray", "bytes", "classmethod", "complex", "dict", "enumerate",
     "filter", "float", "frozenset", "property", "int", "list", "map", "object", "range",
     "reversed", "set", "slice", "staticmethod", "str", "super", "tuple", "type", "zip",
     "BaseException", "BaseExceptionGroup", "Exception", "GeneratorExit", "KeyboardInterrupt",
     "SystemExit", "ArithmeticError", "AssertionError", "AttributeError", "BufferError",
     "EOFError", "ImportError", "LookupError", "MemoryError", "NameError", "OSError",
     "ReferenceError", "RuntimeError", "StopAsyncIteration", "StopIteration", "SyntaxError",
     "SystemError", "TypeError", "ValueError", "Warning", "FloatingPointError", "OverflowError",
     "ZeroDivisionError", "BytesWarning", "DeprecationWarning", "EncodingWarning",
     "FutureWarning", "ImportWarning", "PendingDeprecationWarning", "ResourceWarning",
     "RuntimeWarning", "SyntaxWarning", "UnicodeWarning", "UserWarning", "BlockingIOError",
     "ChildProcessError", "ConnectionError", "FileExistsError", "FileNotFoundError",
     "InterruptedError", "IsADirectoryError", "NotADirectoryError", "PermissionError",
     "ProcessLookupError", "TimeoutError", "IndentationError", "IndexError", "KeyError",
     "ModuleNotFoundError", "NotImplementedError", "RecursionError", "UnboundLocalError",
     "UnicodeError", "BrokenPipeError", "ConnectionAbortedError", "ConnectionRefusedError",
     "ConnectionResetError", "TabError", "UnicodeDecodeError", "UnicodeEncodeError",
     "UnicodeTranslateError", "ExceptionGroup"],
    [],
    [("EnvironmentError", ⟨"builtins", "OSError"⟩), ("IOError", ⟨"builtins", "OSError"⟩)],
    []⟩,
  ⟨"collections",
    ["deque", "defaultdict", "_OrderedDictKeysView", "_OrderedDictItemsView",
     "_OrderedDictValuesView", "_Link", "OrderedDict", "Counter", "ChainMap", "UserDict",
     "UserList", "UserString"],
    [("_collections", ["_tuplegetter"])],
    [("_chain", ⟨"itertools", "chain"⟩), ("_repeat", ⟨"itertools", "repeat"⟩),
     ("_starmap", ⟨"itertools", "starmap"⟩), ("_itemgetter", ⟨"operator", "itemgetter"⟩)],
    [("_collections_abc", "collections.abc"), ("abc", "collections.abc")]⟩,
  ⟨"collections.abc",
    ["Awaitable", "Coroutine", "AsyncIterable", "AsyncIterator", "AsyncGenerator", "Hashable",
     "Iterable", "Iterator", "Generator", "Reversible", "Sized", "Container", "Callable",
     "Collection", "Set", "MutableSet", "Mapping", "MutableMapping", "MappingView", "KeysView",
     "ItemsView", "ValuesView", "Sequence", "MutableSequence", "ByteString",
     "_CallableGenericAlias"],
    [],
    [],
    []⟩,
  ⟨"datetime",
    ["timedelta", "date", "tzinfo", "time", "datetime", "timezone"],
    [],
    [],
    []⟩,
  ⟨"decimal",
    ["Decimal", "Context", "DecimalTuple", "DecimalException", "Clamped", "Rounded", "Inexact",
     "Subnormal", "Underflow", "Overflow", "DivisionByZero", "FloatOperation",
     "InvalidOperation", "ConversionSyntax", "DivisionImpossible", "DivisionUndefined",
     "InvalidContext"],
    [],
    [],
    []⟩,
  ⟨"fractions",
    ["Fraction"],
    [("decimal", ["Decimal"])],
    [],
    [("numbers", "numbers")]⟩,
  ⟨"numbers",
    ["Number", "Complex", "Real", "Rational", "Integral"],
    [("abc", ["ABCMeta"])],
    [],
    []⟩,
  ⟨"os",
    ["stat_result", "statvfs_result", "terminal_size", "_Environ", "_wrap_close", "PathLike"],
    [("types", ["GenericAlias"]),
     ("posix", ["waitid_result", "sched_param", "DirEntry", "times_result", "uname_result"]),
     ("collections.abc", ["MutableMapping", "Mapping"])],
    [("__loader__", ⟨"_frozen_importlib", "FrozenImporter"⟩), ("error", ⟨"builtins", "OSError"⟩)],
    []⟩,
  ⟨"typing",
    ["_Final", "_Immutable", "_NotIterable", "_SpecialForm", "_LiteralSpecialForm", "_AnyMeta",
     "Any", "ForwardRef", "_PickleUsingNameMixin", "_BoundVarianceMixin", "TypeVar",
     "TypeVarTuple", "ParamSpecArgs", "ParamSpecKwargs", "ParamSpec", "_BaseGenericAlias",
     "_GenericAlias", "_SpecialGenericAlias", "_CallableGenericAlias", "_CallableType",
     "_TupleType", "_UnionGenericAlias", "_LiteralGenericAlias", "_ConcatenateGenericAlias",
     "_UnpackGenericAlias", "Generic", "_TypingEllipsis", "_ProtocolMeta", "Protocol",
     "_AnnotatedAlias", "Annotated", "SupportsInt", "SupportsFloat", "SupportsComplex",
     "SupportsBytes", "SupportsIndex", "SupportsAbs", "SupportsRound", "NamedTupleMeta",
     "_TypedDictMeta", "NewType", "IO", "BinaryIO", "TextIO", "_DeprecatedType", "io", "re"],
    [("abc", ["ABCMeta"]), ("collections", ["defaultdict"]), ("types", ["GenericAlias"])],
    [("WrapperDescriptorType", ⟨"builtins", "wrapper_descriptor"⟩),
     ("MethodWrapperType", ⟨"builtins", "method-wrapper"⟩),
     ("MethodDescriptorType", ⟨"builtins", "method_descriptor"⟩),
     ("_alias", ⟨"typing", "_SpecialGenericAlias"⟩), ("_NamedTuple", ⟨"typing", "NamedTuple"⟩),
     ("_TypedDict", ⟨"typing", "TypedDict"⟩), ("Text", ⟨"builtins", "str"⟩)],
    [("collections", "collections")]⟩,
  ⟨"numpy",
    ["generic", "number", "integer", "signedinteger", "unsignedinteger", "inexact", "floating",
     "complexfloating", "int8", "int16", "int32", "int64", "longlong", "timedelta64", "uint8",
     "uint16", "uint32", "uint64", "ulonglong", "float16", "float32", "float64", "longdouble",
     "complex64", "complex128", "clongdouble", "datetime64", "object_", "flexible", "character",
     "void", "str_", "bytes_", "ndarray", "dtype", "ufunc", "bool"],
    [],
    [("bool_", ⟨"numpy", "bool"⟩), ("int_", ⟨"numpy", "int64"⟩), ("long", ⟨"numpy", "int64"⟩),
     ("intp", ⟨"numpy", "int64"⟩), ("double", ⟨"numpy", "float64"⟩),
     ("single", ⟨"numpy", "float32"⟩), ("half", ⟨"numpy", "float16"⟩),
     ("byte", ⟨"numpy", "int8"⟩), ("ubyte", ⟨"numpy", "uint8"⟩), ("short", ⟨"numpy", "int16"⟩),
     ("ushort", ⟨"numpy", "uint16"⟩), ("intc", ⟨"numpy", "int32"⟩),
     ("uintc", ⟨"numpy", "uint32"⟩), ("uint", ⟨"numpy", "uint64"⟩),
     ("uintp", ⟨"numpy", "uint64"⟩), ("ulong", ⟨"numpy", "uint64"⟩),
     ("csingle", ⟨"numpy", "complex64"⟩), ("cdouble", ⟨"numpy", "complex128"⟩)],
    []⟩]

/-- The modules of the library. -/
def library : List Module := [
  ⟨"fnweave",
    [],
    [("fnweave.api.pipeline", ["PipelineConfig"]),
     ("fnweave.core._serde.registry", ["FunctionRegistry"]),
     ("fnweave.core._serde.serde", ["FunctionSerde"]),
     ("fnweave.core.adapted.adapted", ["AdaptedBinaryOperator", "AdaptedFunction", "AdaptedPredicate"]),
     ("fnweave.core.adapted.input_adapted", ["AdapterKind"]),
     ("fnweave.core.error", ["ConfigurationError", "FnweaveError", "InternalError", "PipelineValidationError",
      "SerdeError", "SignatureError", "TupleArityError", "UnknownFunctionError", "ValidationError"]),
     ("fnweave.core.functions.base", ["BinaryOperator", "Function", "Predicate"]),
     ("fnweave.core.functions.binary_operator_map", ["BinaryOperatorMap"]),
     ("fnweave.core.functions.composite", ["FunctionComposite", "PredicateComposite"]),
     ("fnweave.core.nary.function_n", ["Function2", "Function3", "Function4", "Function5"]),
     ("fnweave.core.nary.predicate_n", ["Predicate2", "Predicate3", "Predicate4", "Predicate5"]),
     ("fnweave.core.nary.tuple_adapted", ["TupleAdaptedFunction", "TupleAdaptedPredicate"]),
     ("fnweave.core.signature", ["Signature"]),
     ("fnweave.core.types.tuples", ["ArrayTuple", "MapTuple", "Tuple", "Tuple1", "Tuple2", "Tuple3", "Tuple4", "Tuple5"]),
     ("fnweave.core.validation_result", ["ValidationResult"])],
    [],
    [("binaryoperator", "fnweave.impl.binaryoperator"), ("function", "fnweave.impl.function"),
     ("predicate", "fnweave.impl.predicate"), ("_constants", "fnweave._constants"),
     ("logging", "fnweave.logging"), ("api", "fnweave.api"), ("impl", "fnweave.impl"),
     ("core", "fnweave.core")]⟩,
  ⟨"fnweave._constants",
    [],
    [],
    [],
    []⟩,
  ⟨"fnweave.api",
    [],
    [("fnweave.api.pipeline", ["PipelineConfig"])],
    [],
    [("pipeline", "fnweave.api.pipeline")]⟩,
  ⟨"fnweave.api.pipeline",
    ["PipelineConfig"],
    [("typing", ["Any"]), ("pydantic.main", ["BaseModel"]),
     ("fnweave.core._serde.serde", ["FunctionSerde", "FunctionSpec"]),
     ("fnweave.core.error", ["ConfigurationError", "PipelineValidationError"]),
     ("fnweave.core.functions.composite", ["FunctionComposite"])],
    [("PydanticValidationError", ⟨"pydantic_core._pydantic_core", "ValidationError"⟩)],
    []⟩,
  ⟨"fnweave.core",
    [],
    [],
    [],
    [("signature", "fnweave.core.signature"), ("error", "fnweave.core.error"),
     ("validation_result", "fnweave.core.validation_result"), ("types", "fnweave.core.types"),
     ("_utils", "fnweave.core._utils"), ("_serde", "fnweave.core._serde"),
     ("adapted", "fnweave.core.adapted"), ("functions", "fnweave.core.functions"),
     ("nary", "fnweave.core.nary")]⟩,
  ⟨"fnweave.core._serde",
    [],
    [("fnweave.core._serde.registry", ["FunctionRegistry"]),
     ("fnweave.core._serde.serde", ["FunctionSerde", "FunctionSpec"])],
    [],
    [("serde", "fnweave.core._serde.serde"), ("registry", "fnweave.core._serde.registry")]⟩,
  ⟨"fnweave.core._serde.registry",
    ["FunctionRegistry"],
    [("typing", ["TypeVar"]),
     ("fnweave.core.adapted.adapted", ["AdaptedBinaryOperator", "AdaptedFunction", "AdaptedPredicate"]),
     ("fnweave.core.error", ["InternalError", "SerdeError", "UnknownFunctionError"]),
     ("fnweave.core.functions.binary_operator_map", ["BinaryOperatorMap"]),
     ("fnweave.core.functions.composite", ["FunctionComposite"]),
     ("fnweave.core.nary.tuple_adapted", ["TupleAdaptedFunction", "TupleAdaptedPredicate", "TupleInputAdapter", "TupleOutputAdapter"])],
    [],
    []⟩,
  ⟨"fnweave.core._serde.serde",
    ["FunctionSpec", "FunctionSerde"],
    [("typing", ["Any"]), ("pydantic.main", ["BaseModel"]), ("pydantic.config", ["ConfigDict"]),
     ("fnweave.core._serde.registry", ["FunctionRegistry"]),
     ("fnweave.core.error", ["SerdeError"])],
    [("PydanticValidationError", ⟨"pydantic_core._pydantic_core", "ValidationError"⟩)],
    [("builtins", "builtins")]⟩,
  ⟨"fnweave.core._utils",
    [],
    [],
    [],
    [("type_resolution", "fnweave.core._utils.type_resolution"),
     ("misc", "fnweave.core._utils.misc")]⟩,
  ⟨"fnweave.core._utils.misc",
    [],
    [("typing", ["Any"])],
    [],
    []⟩,
  ⟨"fnweave.core._utils.type_resolution",
    [],
    [("typing", ["Any", "TypeVar"])],
    [],
    []⟩,
  ⟨"fnweave.core.adapted",
    [],
    [
     ("fnweave.core.adapted.adapted", ["Adapted", "AdaptedBinaryOperator", "AdaptedFunction", "AdaptedPredicate"]),
     ("fnweave.core.adapted.input_adapted", ["AdapterKind", "InputAdapted"]),
     ("fnweave.core.adapted.output_adapted", ["OutputAdapted"])],
    [],
    [("input_adapted", "fnweave.core.adapted.input_adapted"),
     ("adapted", "fnweave.core.adapted.adapted"),
     ("output_adapted", "fnweave.core.adapted.output_adapted")]⟩,
  ⟨"fnweave.core.adapted.adapted",
    ["Adapted", "AdaptedFunction", "AdaptedPredicate", "AdaptedBinaryOperator"],
    [("typing", ["TypeVar"]), ("fnweave.core.adapted.input_adapted", ["InputAdapted"]),
     ("fnweave.core.adapted.output_adapted", ["OutputAdapted"]),
     ("fnweave.core.error", ["ConfigurationError"]),
     ("fnweave.core.functions.base", ["BinaryOperator", "Function", "Predicate"])],
    [],
    []⟩,
  ⟨"fnweave.core.adapted.input_adapted",
    ["AdapterKind", "InputAdapted"],
    [("enum", ["Enum"]), ("typing", ["Generic", "TypeVar"]),
     ("fnweave.core.functions.base", ["Structural"])],
    [],
    []⟩,
  ⟨"fnweave.core.adapted.output_adapted",
    ["OutputAdapted"],
    [("typing", ["Generic", "TypeVar"]), ("fnweave.core.adapted.input_adapted", ["AdapterKind"]),
     ("fnweave.core.error", ["ConfigurationError"]),
     ("fnweave.core.functions.base", ["Structural"])],
    [],
    []⟩,
  ⟨"fnweave.core.error",
    ["FnweaveError", "ConfigurationError", "TupleArityError", "UnknownFunctionError",
     "PipelineValidationError", "ValidationError", "SerdeError", "SignatureError", "InternalError"],
    [],
    [],
    []⟩,
  ⟨"fnweave.core.functions",
    [],
    [("fnweave.core.functions.base", ["BinaryOperator", "Function", "Predicate", "Structural"]),
     ("fnweave.core.functions.binary_operator_map", ["BinaryOperatorMap"]),
     ("fnweave.core.functions.composite", ["FunctionComposite", "PredicateComposite"])],
    [],
    [("base", "fnweave.core.functions.base"),
     ("binary_operator_map", "fnweave.core.functions.binary_operator_map"),
     ("composite", "fnweave.core.functions.composite")]⟩,
  ⟨"fnweave.core.functions.base",
    ["Structural", "_SignatureChecks", "Function", "Predicate", "BinaryOperator"],
    [("abc", ["ABC"]), ("typing", ["Any", "Generic", "TypeVar"]),
     ("fnweave.core.signature", ["Signature"]),
     ("fnweave.core.validation_result", ["ValidationResult"])],
    [],
    []⟩,
  ⟨"fnweave.core.functions.binary_operator_map",
    ["BinaryOperatorMap"],
    [("typing", ["Any"]), ("fnweave.core.error", ["ConfigurationError"]),
     ("fnweave.core.functions.base", ["BinaryOperator"])],
    [],
    []⟩,
  ⟨"fnweave.core.functions.composite",
    ["FunctionComposite", "PredicateComposite"],
    [("typing", ["Any"]), ("fnweave.core.functions.base", ["Function", "Predicate"]),
     ("fnweave.core.signature", ["Signature"]),
     ("fnweave.core.validation_result", ["ValidationResult"])],
    [],
    []⟩,
  ⟨"fnweave.core.nary",
    [],
    [
     ("fnweave.core.nary.function_n", ["Function2", "Function3", "Function4", "Function5", "FunctionN"]),
     ("fnweave.core.nary.predicate_n", ["Predicate2", "Predicate3", "Predicate4", "Predicate5", "PredicateN"]),
     ("fnweave.core.nary.tuple_adapted", ["TupleAdaptedFunction", "TupleAdaptedPredicate", "TupleInputAdapter", "TupleOutputAdapter"])],
    [],
    [("predicate_n", "fnweave.core.nary.predicate_n"),
     ("tuple_adapted", "fnweave.core.nary.tuple_adapted"),
     ("function_n", "fnweave.core.nary.function_n")]⟩,
  ⟨"fnweave.core.nary.function_n",
    ["FunctionN", "Function2", "Function3", "Function4", "Function5"],
    [("typing", ["Any", "TypeVar"]), ("fnweave.core.error", ["TupleArityError"]),
     ("fnweave.core.functions.base", ["Function"]),
     ("fnweave.core.signature", ["Signature", "TupleSignature"]),
     ("fnweave.core.types.tuples", ["ArrayTuple", "FixedTuple", "Tuple2", "Tuple3", "Tuple4", "Tuple5"])],
    [],
    []⟩,
  ⟨"fnweave.core.nary.predicate_n",
    ["PredicateN", "Predicate2", "Predicate3", "Predicate4", "Predicate5"],
    [("typing", ["TypeVar"]), ("fnweave.core.functions.base", ["Predicate"]),
     ("fnweave.core.types.tuples", ["ArrayTuple", "Tuple2", "Tuple3", "Tuple4", "Tuple5"])],
    [],
    []⟩,
  ⟨"fnweave.core.nary.tuple_adapted",
    ["TupleInputAdapter", "TupleOutputAdapter", "TupleAdaptedFunction", "TupleAdaptedPredicate"],
    [("typing", ["Any"]),
     ("fnweave.core.adapted.adapted", ["AdaptedFunction", "AdaptedPredicate"]),
     ("fnweave.core.error", ["ConfigurationError", "TupleArityError"]),
     ("fnweave.core.functions.base", ["Function", "Structural"]),
     ("fnweave.core.types.tuples", ["Tuple"])],
    [],
    []⟩,
  ⟨"fnweave.core.signature",
    ["_DeclarationSite", "Signature", "SingletonSignature", "TupleSignature"],
    [("abc", ["ABC"]), ("typing", ["Any"]), ("fnweave.core.error", ["SignatureError"]),
     ("fnweave.core.types.tuples", ["FixedTuple"]),
     ("fnweave.core.validation_result", ["ValidationResult"])],
    [],
    [("typing", "typing"), ("np", "numpy")]⟩,
  ⟨"fnweave.core.types",
    [],
    [
     ("fnweave.core.types.tuples", ["ArrayTuple", "FixedTuple", "MapTuple", "Tuple", "Tuple1", "Tuple2", "Tuple3", "Tuple4",
      "Tuple5"])],
    [],
    [("tuples", "fnweave.core.types.tuples")]⟩,
  ⟨"fnweave.core.types.tuples",
    ["Tuple", "ArrayTuple", "FixedTuple", "Tuple1", "Tuple2", "Tuple3", "Tuple4", "Tuple5",
     "MapTuple"],
    [("abc", ["ABC"]), ("typing", ["Any", "Generic", "TypeVar"]),
     ("fnweave.core.error", ["TupleArityError"])],
    [],
    []⟩,
  ⟨"fnweave.core.validation_result",
    ["ValidationResult"],
    [],
    [],
    []⟩,
  ⟨"fnweave.impl",
    [],
    [],
    [],
    [("binaryoperator", "fnweave.impl.binaryoperator"), ("function", "fnweave.impl.function"),
     ("predicate", "fnweave.impl.predicate")]⟩,
  ⟨"fnweave.impl.binaryoperator",
    [],
    [("fnweave.impl.binaryoperator.concat", ["CollectionConcat", "StringConcat"]),
     ("fnweave.impl.binaryoperator.numeric", ["Max", "Min", "NumericAggregateFunction", "Product", "Sum"])],
    [],
    [("numeric", "fnweave.impl.binaryoperator.numeric"),
     ("concat", "fnweave.impl.binaryoperator.concat")]⟩,
  ⟨"fnweave.impl.binaryoperator.concat",
    ["StringConcat", "CollectionConcat"],
    [("collections.abc", ["MutableSequence", "MutableSet"]), ("typing", ["Any"]),
     ("fnweave.core.error", ["ValidationError"]),
     ("fnweave.core.functions.base", ["BinaryOperator"])],
    [],
    []⟩,
  ⟨"fnweave.impl.binaryoperator.numeric",
    ["NumericAggregateFunction", "Sum", "Product", "Max", "Min"],
    [("numbers", ["Number"]), ("fnweave.core.error", ["ValidationError"]),
     ("fnweave.core.functions.base", ["BinaryOperator"])],
    [],
    []⟩,
  ⟨"fnweave.impl.function",
    [],
    [
     ("fnweave.impl.function.basic", ["Cast", "DictionaryLookup", "Identity", "ToArray", "ToLong"]),
     ("fnweave.impl.function.dates", ["ParseTime", "ToDateString"]),
     ("fnweave.impl.function.delimited", ["CsvLinesToMaps", "CsvToMaps"]),
     ("fnweave.impl.function.iterable", ["FirstValid", "IsEmpty", "IterableConcat", "IterableFilter", "NthItem"]),
     ("fnweave.impl.function.numeric", ["DivideBy", "MultiplyBy"]),
     ("fnweave.impl.function.text", ["Concat", "StringRegexReplace"])],
    [],
    [("delimited", "fnweave.impl.function.delimited"), ("basic", "fnweave.impl.function.basic"),
     ("text", "fnweave.impl.function.text"), ("numeric", "fnweave.impl.function.numeric"),
     ("dates", "fnweave.impl.function.dates"), ("iterable", "fnweave.impl.function.iterable")]⟩,
  ⟨"fnweave.impl.function.basic",
    ["Identity", "Cast", "ToLong", "DictionaryLookup", "ToArray"],
    [("collections.abc", ["Iterable", "Mapping"]), ("typing", ["Any", "TypeVar"]),
     ("fnweave.core.error", ["ValidationError"]), ("fnweave.core.functions.base", ["Function"])],
    [],
    []⟩,
  ⟨"fnweave.impl.function.dates",
    ["ToDateString", "ParseTime"],
    [("datetime", ["datetime", "timedelta", "timezone"]), ("zoneinfo", ["ZoneInfo"]),
     ("zoneinfo._common", ["ZoneInfoNotFoundError"]),
     ("fnweave.core.error", ["ValidationError"]), ("fnweave.core.functions.base", ["Function"])],
    [],
    []⟩,
  ⟨"fnweave.impl.function.delimited",
    ["_CsvOptions", "CsvToMaps", "CsvLinesToMaps"],
    [("typing", ["Any"]), ("fnweave.core.error", ["ValidationError"]),
     ("fnweave.core.functions.base", ["Function"])],
    [],
    []⟩,
  ⟨"fnweave.impl.function.iterable",
    ["NthItem", "FirstValid", "IsEmpty", "IterableConcat", "IterableFilter"],
    [("itertools", ["chain", "islice"]), ("typing", ["Any"]),
     ("fnweave.core.error", ["ValidationError"]), ("fnweave.core.functions.base", ["Function"])],
    [],
    []⟩,
  ⟨"fnweave.impl.function.numeric",
    ["DivideBy", "MultiplyBy"],
    [("fnweave.core.error", ["ValidationError"]), ("fnweave.core.functions.base", ["Function"]),
     ("fnweave.core.types.tuples", ["Tuple2"])],
    [],
    []⟩,
  ⟨"fnweave.impl.function.text",
    ["StringRegexReplace", "Concat"],
    [("typing", ["Any"]), ("fnweave.core.error", ["ValidationError"]),
     ("fnweave.core.functions.base", ["Function"]),
     ("fnweave.core.nary.function_n", ["Function2"])],
    [],
    []⟩,
  ⟨"fnweave.impl.predicate",
    [],
    [("fnweave.impl.predicate.age_off", ["AgeOff"]),
     ("fnweave.impl.predicate.comparison", ["IsEqual", "IsLessThan", "IsMoreThan", "IsXLessThanY"]),
     ("fnweave.impl.predicate.logical", ["And", "Not", "Or"]),
     ("fnweave.impl.predicate.membership", ["AreIn", "IsA"]),
     ("fnweave.impl.predicate.regex", ["MultiRegex", "Regex"])],
    [],
    [("age_off", "fnweave.impl.predicate.age_off"),
     ("logical", "fnweave.impl.predicate.logical"),
     ("comparison", "fnweave.impl.predicate.comparison"),
     ("regex", "fnweave.impl.predicate.regex"),
     ("membership", "fnweave.impl.predicate.membership")]⟩,
  ⟨"fnweave.impl.predicate.age_off",
    ["AgeOff"],
    [("fnweave.core.functions.base", ["Predicate"])],
    [],
    []⟩,
  ⟨"fnweave.impl.predicate.comparison",
    ["_ControlValueComparison", "IsMoreThan", "IsLessThan", "IsEqual", "IsXLessThanY"],
    [("typing", ["Any"]), ("fnweave.core.functions.base", ["Predicate"]),
     ("fnweave.core.nary.predicate_n", ["Predicate2"]),
     ("fnweave.core.validation_result", ["ValidationResult"])],
    [],
    []⟩,
  ⟨"fnweave.impl.predicate.logical",
    ["Not", "And", "Or"],
    [("typing", ["Any"]), ("fnweave.core.functions.base", ["Predicate"]),
     ("fnweave.core.functions.composite", ["PredicateComposite"]),
     ("fnweave.core.signature", ["Signature"])],
    [],
    []⟩,
  ⟨"fnweave.impl.predicate.membership",
    ["IsA", "AreIn"],
    [("typing", ["Any"]), ("fnweave.core.error", ["SerdeError", "ValidationError"]),
     ("fnweave.core.functions.base", ["Predicate"])],
    [],
    []⟩,
  ⟨"fnweave.impl.predicate.regex",
    ["Regex", "MultiRegex"],
    [("typing", ["Any"]), ("fnweave.core.error", ["ValidationError"]),
     ("fnweave.core.functions.base", ["Predicate"])],
    [],
    []⟩,
  ⟨"fnweave.logging",
    [],
    [("typing", ["TextIO"])],
    [],
    []⟩]

def all : List Module := standard ++ library

/-- The module of a name. -/
def find? (name : String) : Option Module := all.find? fun m => m.name == name

/-- The class that a name in a module stands for. -/
def class? (m : Module) (name : String) : Option ClassName :=
  if m.own.contains name then some ⟨m.name, name⟩
  else
    match m.renamed.lookup name with
    | some c => some c
    | none => (m.shared.find? fun s => s.2.contains name).map fun s => ⟨s.1, name⟩

/-- The class that a path of attributes leads to. -/
def path? : Module → List String → Option ClassName
  | _, [] => none
  | m, [name] => m.class? name
  | m, name :: rest => ((m.inner.lookup name).bind find?).bind fun n => path? n rest

end Module

/-- The class of a dotted name. -/
def ClassName.ofPath? (parts : List String) : Option ClassName :=
  (List.range (parts.length - 1)).reverse.findSome? fun i =>
    (Module.find? (String.intercalate "." (parts.take (i + 1)))).bind fun m =>
      m.path? (parts.drop (i + 1))

end FunctionObjects
