import Rebind.Text.CharSet
/-!
Letter case over the whole character set: the three case classes, and lower and upper spelling.
Most characters keep their number when the case changes; a few upper spellings are two or three
characters long, and a capital sigma at the end of a word has a small letter of its own.
-/
namespace Rebind.Text

def lowercase : CharSet := .packed [97, 123, 170, 171, 181, 182, 186, 187, 223, 247, 248]
  "+$#Y%$#1%$#P%$#&&%$$$%$&%'$%$&&%$%$#'%$$%$$%$&$$$%%%&)$%$%$#2%$#3%%$$$&$#^#*%$%%$$'$#*^/$G*%A(^J$N$$$&$%'5$>F$%&
   &$#9($$%$%%VS$#D,$#W%$#.%$#^ISL^qHN%&j6)^e/,_(`8^+$#_D,$#^J,+)-+#&)-+#&1%+#(($%)$&&$%+'%%++-&$%_*$0$30^W$&%&$>$'
   $'$%%+''$D3'$kP=^_IS$$&%$#('$$%$+&$#^K%*$$$'$/I$$($o`O$#O6$#<&_6$#.&$#^&-$#&%$#+'$$$%$$&$#6($($#1'$$$)$#+?$$&k:N
   $0*^:hvX*/(oJ=rCK_9G_L.$2$*$%dW$%&$M$,sBV^t#Ciu#Clc5==*$5==='$$$*$.=#3??<$)=<$)=<$)=<$)=<$)$$^_7-$7^kZE"

def uppercase : CharSet := .packed [65, 91, 192, 215, 216, 223]
  "D$#Y%$#1%$#P%$#&&%$$$%$&%'$%$&&%$%$#'%$$%$$%$&$$$%&$*$%$%$%$#1%$#3%$%$$&$#^#*%$%%$$'$#*b'$$$&$+$)$$&$$$%$4$,F$%&
   &$#9($%$$%%VS$#C,$#X%$#.%$#^H%I^qJI$$($iI^@^eGN%&bF$#_E,$#^J,++)-+#&).$#)++^2'/'/'/(.'aE$'$&&%&%$&()$#('%'-%($=3
   6$k7=^_3SS$$&%$#('$$%$+&$#^K+$$$'$oaP$#O6$#=_8$#/&$#^&-$#&%$#*'$$$%$$$&$#6($($#1'$$)$($$$?$j^?=r;K_9G_M.$2$*$%^^
   &V^tCCiu#Clc;=#($$%%$%%%'$+===%$'%+$*>%$'$($$&*>=#-A<D<D<D<D<D$_n3E^c-=)=)="

def titlecase : CharSet := .packed []
  "dY$%$%$I$aiT+#'/$2$R$"

/-- What is passed over when looking for the end of a word. -/
def wordIgnorables : CharSet := .packed [39, 40, 46, 47, 58, 59, 94, 95, 96, 97, 168, 169, 173, 174, 175, 176, 180, 181, 183, 185]
  "eR`8'%'$,%$$a:*`G$($TP$$$%$%$$O$.)-.$$F$-83$^O+$-$'D$$$A>^E.^$.'$%$;;N&O$*%)+L^$Z$$$'+'$&*-%0$2$^$$''+$7%=$%%^#$
   '%'%%&&$A%&$.%^#$'($%'$7%9)$$^$$%$$'+$*%.%A$^'$/$U$&$Z$$&(&$'*%.%@$^$$%$)$(%7%?%^#%''+$7%@$^2$*&$$^D$%*.,^L$%,,$
   $)^4%>$#'Z1$($%(.$G,$^P'$)$%%%<%'&3'0$%%)$2$^H$gI&mE&@%A%A%^*%$*+$%.&$($P(V$^+%E$_'&'%,$)&`S%%$^$$$*$#&%+)-%$J$+
   BT'S$$($$($K,/%C'%%$&[$$%&$$&^$+%%^*)^<&$0$*'$)$&%U^)0$E^OdQ$$&.&0&0&0%/(+%-$%$%(T($-$$0$30VD^rS%^[&_.$2$^JCR$e0
   $G'&(($^G)^G&moW$rX)aM$^L'$-$$?'^:%1E^8$:&^Q&&%+$&$'$<%($_H%=50$I+<.Q&S$%'%%4$8%^,)%#&/$+$F$.$V$$&%%(%$$>$1%(%$$
   ^N(,&_*$%$'$hvH$_D4g&3&$/3E$%$_Z$*$)$.$F$$$R$P%^-$8&f#$`Z$_F(o&)$M$,g/&$%('K&'$_V%g&'cP%_J.T'_,$Y2L$%%-&T'%%%$'$
   -$U&G($+^($/%W,-'%$^I&%$$%)$_Q$&+8%^#%&$H*&(`;+%&$$:$^>)$$'%$%a-')%$%>%^?+%$$%^T$$$%)$$^O&%'$(aB,$%a?%$$'$_A'%%'
   $C-K)%'+$,)%&Q0$%d**$)$$^<9%*$%$%_+)&$$%$*$$^2%&$$$c(%`b7,ebM(^%*,'o,$^)4^*%$%fnG'$*$%^wI%$'_s=Q%:fB&,3%*A'_E&^a
   LZ'U+$1$9($2tT*$4%*$%$(aD1c=$^''w9*^W+^n[(lhqZ$A^J_1a/"

/-- `count` characters from `first` on, `stride` apart, whose other case lies `shift` further on. -/
structure CaseRun where
  first : Nat
  count : Nat
  stride : Nat
  shift : Int

def CaseRun.image? (run : CaseRun) (code : Nat) : Option Nat :=
  let distance := code - run.first
  if run.first ≤ code ∧ distance < run.count * run.stride ∧ distance % run.stride = 0 then
    some (code + run.shift).toNat
  else none

/-- The run that leads back. -/
def CaseRun.reversed (run : CaseRun) : CaseRun :=
  ⟨(run.first + run.shift).toNat, run.count, run.stride, -run.shift⟩

def caseRuns (table : String) : List CaseRun :=
  (Packed.table table).filterMap fun
    | [first, count, stride, shift] => some ⟨first, count, stride, Packed.signed shift⟩
    | _ => none

def lowerRuns : List CaseRun := caseRuns
  "'_3W%_1'a=(##'SB##'^:E%_,'^NL##'1-##'EA##'^FN$e9'%'%e8'3&$kI'%%%kH'+$$k9'%##k8''%#k5''$#k4')##b>'%##eG'%##''%##k
   ,''##k5'%##+''##3'%##*'%##kD'+##kM'%##+''##''%'%kX'/&$l0'%##l/''##l0')##l/''##l0'%##l/''%#l,''#%l+'+$$l4'%##l3'+
   ###'3##''%##&''##''%##&''##''%3%&'I###'I2$''%%%&'+$$cK'%##_T'%I%`Q'^:H$f$''3%f#'S2$vd>'%##vd=''##h6'%##uvX')##vd
   1''##jD'%##eP'%##+'%+%aV'g=(##'/$$#'5##e''1##b='''#&'+&#^V''%#&')A#_,'G2##'^B2#^I'59%>'[8$a)')##a(''##9'%##8')'#
   f$')=#`='CC#`7'_Q@%_,'^>7##'^VV$['%/%Z'A^<##'`:6$`4'`iK##mw9'^8^3##'/###'v8_O#_jxB'_Q_D#`]wL'_n>^4#d]?'^D^9##'h6
   _A%d]Z'bB_D$nu3''^H%nu2'`H^9$='C&##'C'##'C###'C&##'E&%#'A+$#'^*###'C####$'C.##''##aG''$#aB';)#b:'+(#b9';%#&''##c
   ='?##c<''##d4''$#d7';%#e?''##*''$#e.'g=##nmU'+##_]O'%##e>'1##pdO'^FA#R'^0@#^%'yMU#^N'_b>O#^B'`8^G#`3''##v`P'%##m
   c0'%##mb*')'%v_H'/&$vc9'%##_,'%##_9'%##&''##vc@')###'5%#veS''^J%veR'`N^I##'1$$#'^cfFO%#'_14##'bJ0##'CS##'_?^###'
   +$$_sp6'%+%_sp5'=*$#''##`ewW')%%`ewV'/3##'K4$`eyU'%##O'%##2'%##J'%##/''##`?'%##^J'%##^='%##`cq@'%1%_b%'C0$`2'%##
   `evB'%##mbQ'%%%_ssZ'5$$#'/%%#'^($$#'w`$U#_-'^jN?#C'c-*##'cMT#&';+##'C2##'3,##'__-^L#^N'`oWH#_0'vp*###'^csE'#+"

def upperRuns : List CaseRun := lowerRuns.map CaseRun.reversed

def lowerExpansions : List (List Nat) := [[304, 105, 775]]

def upperExpansions : List (List Nat) := Packed.table
  "%c7^_;&^>z?_W%_U6&Ss#_M%^VrG%_=iY%))#$&^4j=x8%'kS%hVkU'_G#x0w['^*;##%G&%?D%%/%+?%%.%W.%%1%+:&k)kE^nP%cw7g.%%'%%7%
   %)%%%%%#%%3%%^Z%%^ok5&o=^pr+yI&%;^;&%)'&%'#&%R_H%%f]C&c7e](xF''##wY''##%''##_3&^>ec#aK&%%##)&%0#&%%##)&%U#&%%##)&
   %0#&%%##)&%_##&%%##)&%0#&%%##)&)_G#&%eiX#&%8#&'9`%'%##^_5&-#`&%'3&+ej0^_5&%ej3#&%>#&'?`%'%##^_5&-#`&'/'b'wY'%##%&
   )#_%'%#_$z2'9;#_4'%##%&%*9&'+^H'%#_$z2&9ek?b(&%ek6#&%V#&'W`%'%##^_5&-#`&&_bn4^]:zS&%#)#$'%#._C'%##)&%=?&%##&=^k9^
   k;&%#D&%#/&%79&%64"

def mapCase (runs : List CaseRun) (expansions : List (List Nat)) (c : Char) : List Char :=
  match expansions.find? fun row => row.head? = some c.toNat with
  | some row => row.tail.map Char.ofNat
  | none =>
    match runs.findSome? (·.image? c.toNat) with
    | some code => [Char.ofNat code]
    | none => [c]

/-- Some character has the class, and none is of the two classes that exclude it. -/
def isCased (own other : CharSet) (s : String) : Bool :=
  s.toList.all (fun c => !(other.contains c || titlecase.contains c)) && s.toList.any own.contains

def isUpper (s : String) : Bool := isCased uppercase lowercase s

def isLower (s : String) : Bool := isCased lowercase uppercase s

def nearestHasCase (s : List Char) : Bool :=
  match s.dropWhile wordIgnorables.contains with
  | [] => false
  | c :: _ => lowercase.contains c || uppercase.contains c || titlecase.contains c

/-- A capital sigma ends a word when a letter stands before it and none after it. -/
def lowerChars : (before : List Char) → List Char → List Char
  | _, [] => []
  | before, c :: rest =>
    let spelled :=
      if c = 'Σ' then
        if nearestHasCase before && !nearestHasCase rest then ['ς'] else ['σ']
      else mapCase lowerRuns lowerExpansions c
    spelled ++ lowerChars (c :: before) rest

def toLower (s : String) : String := String.ofList (lowerChars [] s.toList)

def toUpper (s : String) : String :=
  String.ofList (s.toList.flatMap (mapCase upperRuns upperExpansions))

end Rebind.Text
