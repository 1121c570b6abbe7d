import TextProtocol.Script.Object
import TextProtocol.Text.Blank

/-!
# Names in Python modules

The names that mean something without being bound, the attributes that objects have, and the modules
that can be loaded.
-/

namespace TextProtocol.Script

def named (text : String) : List String :=
  (Text.words text.toList).map String.ofList

def exceptionClasses : List String := named "
  ArithmeticError AssertionError AttributeError BaseException BaseExceptionGroup BlockingIOError
  BrokenPipeError BufferError BytesWarning ChildProcessError ConnectionAbortedError ConnectionError
  ConnectionRefusedError ConnectionResetError DeprecationWarning EOFError EncodingWarning
  EnvironmentError Exception ExceptionGroup FileExistsError FileNotFoundError FloatingPointError
  FutureWarning GeneratorExit IOError ImportError ImportWarning IndentationError IndexError
  InterruptedError IsADirectoryError KeyError KeyboardInterrupt LookupError MemoryError
  ModuleNotFoundError NameError NotADirectoryError NotImplementedError OSError OverflowError
  PendingDeprecationWarning PermissionError ProcessLookupError RecursionError ReferenceError
  ResourceWarning RuntimeError RuntimeWarning StopAsyncIteration StopIteration SyntaxError
  SyntaxWarning SystemError SystemExit TabError TimeoutError TypeError UnboundLocalError
  UnicodeDecodeError UnicodeEncodeError UnicodeError UnicodeTranslateError UnicodeWarning
  UserWarning ValueError Warning ZeroDivisionError"

def builtins : List String := named "
  abs aiter all anext any ascii bin bool breakpoint bytearray bytes callable chr classmethod
  compile complex copyright credits delattr dict dir divmod enumerate eval exec exit filter float
  format frozenset getattr globals hasattr hash help hex id input int isinstance issubclass iter
  len license list locals map max memoryview min next object oct open ord pow print property quit
  range repr reversed round set setattr slice sorted staticmethod str sum super tuple type vars zip"

def moduleNames : List String := named "
  Ellipsis NotImplemented __build_class__ __builtins__ __cached__ __debug__ __doc__ __file__
  __import__ __loader__ __name__ __package__ __spec__"

def libraryModules : List String := named "
  __future__ abc aifc antigravity argparse array ast asynchat asyncio asyncore atexit audioop
  base64 bdb binascii bisect builtins bz2 cProfile calendar cgi cgitb chunk cmath cmd code codecs
  codeop collections colorsys compileall concurrent configparser contextlib contextvars copy
  copyreg crypt csv ctypes curses dataclasses datetime dbm decimal difflib dis distutils doctest
  email encodings ensurepip enum errno faulthandler fcntl filecmp fileinput fnmatch fractions
  ftplib functools gc genericpath getopt getpass gettext glob graphlib grp gzip hashlib heapq hmac
  html http idlelib imaplib imghdr imp importlib inspect io ipaddress itertools json keyword
  lib2to3 linecache locale logging lzma mailbox mailcap marshal math mimetypes mmap modulefinder
  multiprocessing netrc nis nntplib ntpath nturl2path numbers opcode operator optparse os
  ossaudiodev pathlib pdb pickle pickletools pipes pkgutil platform plistlib poplib posix posixpath
  pprint profile pstats pty pwd py_compile pyclbr pydoc pydoc_data pyexpat queue quopri random re
  readline reprlib resource rlcompleter runpy sched secrets select selectors shelve shlex shutil
  signal site smtpd smtplib sndhdr socket socketserver spwd sqlite3 sre_compile sre_constants
  sre_parse ssl stat statistics string stringprep struct subprocess sunau symtable sys sysconfig
  syslog tabnanny tarfile telnetlib tempfile termios textwrap this threading time timeit tkinter
  token tokenize tomllib trace traceback tracemalloc tty turtle turtledemo types typing unicodedata
  unittest urllib uu uuid venv warnings wave weakref webbrowser wsgiref xdrlib xml xmlrpc zipapp
  zipfile zipimport zlib zoneinfo"

def objectAttributes : List String := named "
  __class__ __delattr__ __dir__ __doc__ __eq__ __format__ __ge__ __getattribute__ __getstate__
  __gt__ __hash__ __init__ __init_subclass__ __le__ __lt__ __ne__ __new__ __reduce__ __reduce_ex__
  __repr__ __setattr__ __sizeof__ __str__ __subclasshook__"

def textAttributes : List String := named "
  __add__ __contains__ __getitem__ __getnewargs__ __iter__ __len__ __mod__ __mul__ __rmod__
  __rmul__ capitalize casefold center count encode endswith expandtabs find format format_map index
  isalnum isalpha isascii isdecimal isdigit isidentifier islower isnumeric isprintable isspace
  istitle isupper join ljust lower lstrip maketrans partition removeprefix removesuffix replace
  rfind rindex rjust rpartition rsplit rstrip split splitlines startswith strip swapcase title
  translate upper zfill"

/-- The attributes of byte strings, next to those of all objects. -/
def bytesAttributes : List String := named "
  __add__ __bytes__ __contains__ __getitem__ __getnewargs__ __iter__ __len__ __mod__ __mul__
  __rmod__ __rmul__ capitalize center count decode endswith expandtabs find fromhex hex index
  isalnum isalpha isascii isdigit islower isspace istitle isupper join ljust lower lstrip maketrans
  partition removeprefix removesuffix replace rfind rindex rjust rpartition rsplit rstrip split
  splitlines startswith strip swapcase title translate upper zfill"

def wholeAttributes : List String := named "
  __abs__ __add__ __and__ __bool__ __ceil__ __divmod__ __float__ __floor__ __floordiv__
  __getnewargs__ __index__ __int__ __invert__ __lshift__ __mod__ __mul__ __neg__ __or__ __pos__
  __pow__ __radd__ __rand__ __rdivmod__ __rfloordiv__ __rlshift__ __rmod__ __rmul__ __ror__
  __round__ __rpow__ __rrshift__ __rshift__ __rsub__ __rtruediv__ __rxor__ __sub__ __truediv__
  __trunc__ __xor__ as_integer_ratio bit_count bit_length conjugate denominator from_bytes imag
  numerator real to_bytes"

def realAttributes : List String := named "
  __abs__ __add__ __bool__ __ceil__ __divmod__ __float__ __floor__ __floordiv__ __getformat__
  __getnewargs__ __int__ __mod__ __mul__ __neg__ __pos__ __pow__ __radd__ __rdivmod__ __rfloordiv__
  __rmod__ __rmul__ __round__ __rpow__ __rsub__ __rtruediv__ __sub__ __truediv__ __trunc__
  as_integer_ratio conjugate fromhex hex imag is_integer real"

def complexAttributes : List String := named "
  __abs__ __add__ __bool__ __complex__ __getnewargs__ __mul__ __neg__ __pos__ __pow__ __radd__
  __rmul__ __rpow__ __rsub__ __rtruediv__ __sub__ __truediv__ conjugate imag real"

def tupleAttributes : List String := named "
  __add__ __class_getitem__ __contains__ __getitem__ __getnewargs__ __iter__ __len__ __mul__
  __rmul__ count index"

def listAttributes : List String := named "
  __add__ __class_getitem__ __contains__ __delitem__ __getitem__ __iadd__ __imul__ __iter__ __len__
  __mul__ __reversed__ __rmul__ __setitem__ append clear copy count extend index insert pop remove
  reverse sort"

def setAttributes : List String := named "
  __and__ __class_getitem__ __contains__ __iand__ __ior__ __isub__ __iter__ __ixor__ __len__ __or__
  __rand__ __ror__ __rsub__ __rxor__ __sub__ __xor__ add clear copy difference difference_update
  discard intersection intersection_update isdisjoint issubset issuperset pop remove
  symmetric_difference symmetric_difference_update union update"

def dictAttributes : List String := named "
  __class_getitem__ __contains__ __delitem__ __getitem__ __ior__ __iter__ __len__ __or__
  __reversed__ __ror__ __setitem__ clear copy fromkeys get items keys pop popitem setdefault update
  values"

def unknownText : Object :=
  .text ['?']

def unbound (name : String) : Except Exception Object :=
  if exceptionClasses.contains name then .ok (.exceptionClass name)
  else if builtins.contains name then .ok (.builtin name)
  else if ["__name__", "__file__", "__cached__", "__package__"].contains name then
    .ok unknownText
  else if moduleNames.contains name then .ok .other
  else .error .unknownName

def attributesOf : Object → Option (List String)
  | .text _ => some textAttributes
  | .bytes _ => some bytesAttributes
  | .int _ | .bool _ => some wholeAttributes
  | .real _ => some realAttributes
  | .complex => some complexAttributes
  | .tuple _ => some tupleAttributes
  | .list _ => some listAttributes
  | .set _ => some setAttributes
  | .dict _ => some dictAttributes
  | .none => some ["__bool__"]
  | .ellipsis => some []
  | _ => none

def textFunctions : List (String × Object) :=
  (["capitalize", "casefold", "center", "expandtabs", "format", "join", "ljust", "lower", "lstrip",
    "removeprefix", "removesuffix", "replace", "rjust", "rstrip", "strip", "swapcase", "title",
    "translate", "upper", "zfill"].map (·, unknownText)) ++
  [("count", .int 1), ("find", .int 0), ("encode", .bytes ['?']), ("split", .list [unknownText]),
    ("splitlines", .list [unknownText]), ("isdigit", .bool false), ("startswith", .bool false)]

def attributeValue (e : Object) (name : String) : Object :=
  match e with
  | .text _ => ((textFunctions.lookup name).map .function).getD .other
  | _ => .other

def attributeOf (e : Object) (name : String) : Except Exception Object :=
  if (attributesOf e).all fun names ↦ names.contains name || objectAttributes.contains name then
    .ok (attributeValue e name)
  else .error .absent

def isLibrary (name : String) : Bool :=
  libraryModules.contains (String.ofList (name.toList.takeWhile (· != '.')))

def libraryMember (source name : String) : Object :=
  if source == "enum" && name == "Enum" then .enumBase
  else if source == "dataclasses" && name == "dataclass" then .dataDecorator
  else if source == "typing" && name == "Any" then .type []
  else .other

end TextProtocol.Script
