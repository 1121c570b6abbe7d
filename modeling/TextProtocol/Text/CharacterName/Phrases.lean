/-!
# Phrases of character names

Parts that many names of characters have in common. The tables of names have marks in their place,
and so have later phrases.
-/

namespace TextProtocol.Text.CharacterName

def phraseTable : String :=
  "ER |AL |WITH |LETT!A| !C|ING|IGH|ED |MAL|LAT|FOR|!KM|!JIN|LE | S!IL |!F |z!M|ARROW|ARD|AN
 D | SIGN|VER|!O!D|IC |ENT|ANG|aaaaaaaa|AbHA|ON | CAPIT!B!D|MAR|3b4|TWO| ST|1b2b|BEL|!bd|AND|!Q!W|
 LEFT |ABOVE|R!GT |BAR|IRC|!fb5|ARAB|!jOW|TIC|ATI|REE|HIT|!sb6|VE |z!t!X|XbaP|INE|ONE|TRI|S!IL |
 !Q!d|!eK|OUR|LOW|GRA|DOWN|!i!z|@E01|FIN!B!L|ISO!J!H!L|F!9|!GT|TER|AN |REE |b7b8b9|QUAR|SIGN|ITI|
 DOT |DOUB!N|ONE |DOT|b!2|WITH|HEAD|EQU|EN |W!yE |aAc|!U |!<c|HOR|0b!&|HOOK|H !C|POINT|!hROKE|!GT |
 RAC|IN!?!B!L|R!GTW!SS |CAPIT!B!D|!Rz|HAL|BLACK|YRILL| SYMBOL|MEE|LON|PAR|VAR|LETTER|TIME|E !C|
 zC$VIC|!g |MIDD!N|MEN|SIX|HEAVY |TH |!1LIGATURE |OF |!6!D|!5!ZLE|!4d!g|$cS |IEU|$I$G|LEFTW!SS |
 GRE|PER|TEN|B$OKE|US |!w!c|!!!A|TOP|TO |PSI|BIN|D S|!wON|!V!v!B|$L!P|UP |$pcH!x|TIL|BLACK |
 !R | S!=|UPP!A|THOUS!l|$!f!+|INE |HAR|SHA|TUR|ALEF|GON|CHE|AR |LOCK|!R!E|-$A!H|KHA|M!E|RON|AAc|
 ORN|PL$y|OV!A|BRE|$TF |cEVENfE!,fN!3|DIGIT |COM|ABO!0|MEDIUM|$XM |z!>WRIT!P|!% |$+dIVEe$i%G|VS1|
 $b S|!qB |OUN|SS |!E![|ALL|HUNDRED|OR |$B!B|VOWEL|JEE|L$N|DOUBLE|T!H|AbB|!be|!! | SE|!> |FACE|H!l|
 TI!c|UPW!SS |@10|@11|!-$M|%Z$F|!*n!)|CAPIT!B|R!GT|!%W!SS |PRO|YEH |BOX DRAW!FS |ACUTE|CHA|ION|
 TH!;|THUMB|UNG|C!rLE|MEDI!B!L|$< |YAc|ATER|O!V|AcHA|$e!W|z%x|%YTO|FIS|IN |AT!H|IaIc|$;N!H|ATOR|
 LEFT|!+ |LLA|MAT|!rLE|PLAN|!1!D|$o$^|%HZER|HIGH |LIT|MAc| S$1|ON!E|CON|zG!xK|DER|SIOS|CUR|RE!VS!H|
 PRE|U!E| SHA|VS2|INDEX |LAc|O!E|ANT|KAP|TAIL|%^Oe%O|CAR|L!3|$YG |$z!8|GE!$M$hI|RAc|TRO|LAM|
 WEST-C!;|TION|a $q|ROT%*|DIA$=!B|R!P|TY |IC!B|!R$A|!eK |$$DE|THE|T!^|ISE|%6MAKSURA |MON|NAc|T !C|
 ASH|!$VE|UL$?|$(E|PHA|MAf|DASIA !T|$3LI !T|$HIZONT!B| CAPIT!B|ACK|!.N|NGAd|$e!d|$xTz|EAST |L$,|
 MIN|HAM|ESH| SYMBOL |MAC$-|DIAERESIS|Ib%AEEb|M!Y|PIEUP|MA |@1F|!hAR|IN!V%d|PAL|OU$k|!qz|NYAd|
 NOR$k| S!IL|EbA|!~bRXb|%BAM!Y|TEEN|W!yE|HEAVY|%w!)|NUMB!A|%+UaUc|D !C|DIAMON|OP$C|!*$l|C!rUMFLE
 X | SHE|HAH |Ub&*|MODIFI|!a!a!a!a!a!a!a!a|ANUS$a|DE$uESz|%M%k-|RAN|HEAR|R!GTz|NOT |OLD | S!FLE|
 A!E|R!F|a!E|!K |$BAL|$Z!YHE|WEST |VOCAL!XR| C%>|!Z!N|GUNU|KIYEOK|H!;|MAN|%aM |%ebCb|(O!A|L!,|T!A|
 ANA |!F C| COM|$xT|YANNA|OMEGA|CLO|LY |PEN|TOR|INe|LEFT-|FIN!B|!u!m|!u!7|EbIbOb|SS!Z|OLON|C!r!N|
 %K |bLbMbN|UNCTU|DbEbFbG|FULL&A|%rk$Pm%5| !T|DAc|KAc|UAE|VAc|![!o|$b!O|INDEX|$.PO&B%R|I!:|RAMA|
 R!GT-|HOOK |FI!0|!_S !o|MUS|PAc|EN!E|HAc|PLUS|$TF|%U!o|LARGE|%(T |AS!.ISK|KAT|SE |AL&x|REC|HAd|
 LAG|IbUb|NOT|!- S|$X$~|$(E |%EVE|&TON|EaEc|H$rH|WAc| SI|zCOM|WAW|SCRIP|AL&4AT|DESCEN&E|MOVE&+|
 bTbUbVbWbXb|E$N|S!U|T!4|!E$J|!L |!Uj|OPEN|%l!8|(HD|OPER%.|RE&ZFLEX |CROSS|SIS |$$DE |bIbJbK(%|BAc|
 D!H|DIS|z$%| SP|AT |ATH|ENG|ASH |0b!i|OT!~c|E!2|LAN|IN!.| SH|RED |&-z|)s$J|C$rC|ELE|SHE|AT!~c|
 ACC!Y|QUAD|IRTY|UNDER|$wU|%SD |(o((bH)wbObPbQbRbS)hYbZ|AIN|L!E|PAP|TRA|END |OUT| CROSS|@1D|@1EE|
 MIL|!1LIGATURE|%7&Y&N|&5C!kJ|T!kD!k|VISARGA|BOTTOM|I!0|LIC|HEAD |zCUNEI|$L!H|$Q$S|DIGRA|LARGE |
 OaOc|&[TT%fDD|!5P!N|-!&| SUB|SIX |a %C|SET |NOTE|EV$C|VI(]|%F$U|%q%A|PEc|HA$K|UPER|MIEUM|!hROKE |
 !V!vAL$M|$P$l|UT&~|$_H |IDEO!$|%2 |LESS-THAN|$u%8-TH!:|(eSIS|$vISPO$hI|)b$4!P|F!FER|TIKEUT|
 $[WISE |CRO|N$,|r$R|HEd|Ab)Q|!-!O|!5!Z!N|MIDDLE|$7!q|%M)g-|%a$~|JOIN|&$ZA |(K!T|K!kG!k|RIEUL|FAc|
 I!E|NUN|R!E|p$R|Ab(7|!T!p|HOd|HUNDRED |$1 |$HIZONTAL|C!YRE|LESS-TH!:|%~T!N|IOTA|(=%s|FROM |&_IcOb|
 %fNNAd*H|&=AT!B$J|ORKH!c|PLE|r$n|z$D|LEPH|INf|!Ul|!Ur|!ZLE|!^%W|%y!m|$u%8-THAN|&>&8|(p!D|DOTT!H|
 )dT |YEN&oI |ICAL&&|ZNAMEN| !D|MULTI|QAF|WOR|k(E|z!n|z$Q|$f!_S |SUB|LIP|CEDI%<|%y!7|zCOP!v!W|
 P(&$6|SHORT |(QAi*I|$:cSAc%!|RIC|ARd|HEH |!P%j|EEd|!=!.|LIGATURE |$YG|FAC$d|$wcW!YY|C!rUMFLEX|
 %~TLE|(_!o|!lRA$4DU|POK!H)J|UbOb)XIb|B!Y|CONT|E$3$Y|N!E|e12|HEc|!DA$E|*N!L$F|EXC&a|F$O%l|1!(|5!(|
 9!(|DDA|HED |!J%0|THE |!VY |@16|WAA|E!,H |(S)I|(yS!H|NEUTR!B|*%*G!k|C!YRE $2|INTEGR|$BI!JER!B&jz|
 BAN|CRE|T$C|t$n|REST|BOX|KEY|a %D|!=(r|!_S|$g(V|&GL|&eN!3&h|AUn%i|&](f|zCOP!v!d|(d)j|(q%%|)~$m|
 RAIS!H|&^f%Kg)H|2!(|3!(|y$R|z$t|INK|ONe|ENTI|THIR|ESS|!Um|!m&O|!V!vAL|$8$o|%4D |%9LAY| S!F!N|(P(P|
 (n$Pr|KN$N|(;+l|*J |QUES)p|4b5b6| %p|6!(|CAc|FON|JAc|NIEUN|s$n|LES|ATHA|!Q!O%Q|LA$~|DAG&%|b7b8|
 !7&O|&G(z|&Sk|&rP!kB!k%-|&!US|&]&8|)eE |!n$2$0|$HN(+|$U CHE%T|*wg|ANS-SERIF |-C!;|134|7!(|KUR|SAc|
 YA |g%_|LEG|REH |!Fh|TA |!X!D|@1E|EEc|USH|FINAL|YE$K|NO |NAYA|$D$>%T|$S$t|$Wz|00z|%I$4!P|%L*l|
 %X%&|%2 SIDE|(x!E|FLOOR%?E |BOLD |&p!)x(D|E!GTH|LOG&i|GLOTTAL&A|SIMPLIFI!H|AUc+[*T+A|B%V|D&t|Y!E|
 v$R|ONG| CON|TH!x|!M!W|!Rw|TAIN|!Uk|LOOP|SHI|DOW!H|b8b9c|!=E |$D%4|$S$Q|$0!n|$HIZONTAL$M|@20|(UT|
 TONOS|)M!E|H!FE |Ab(NbOb|*4&jz|+Bt|a%ec|+?$>%T|1$s2|4!(|C!E|K!E|ROW|h%g|z$)| S)9%d| CUR|TH$rTH|
 TILE|SION|!Rq|LAMED|AB%EVI|OMIC$-|!of!u|!6%Q|NGG|![!u|!5!Z&v|$g&l|$0!p|zG!xK |%w(J|(D$l|(M$Pq|
 $aIAfOXIA|(n!*s|)t!P|AR%z%0|)1ACE|)<!q|*O$U&;|*e(F(ga|%R$SWIDE$^|(1TO&o(LLL |&e$fHUNDRE$5EV!YY (R|
 BAD|EYE|REN|WOO|q$R|ENT |SIDE |@12|!m&J|MBOL |NO&B|$HT |FACE |$8(>|$9!T|$&$2|AYANNA|%E!0|%U!u|
 (C%%|(M!*r|RcLaL|W%V%?E |YPO&X|TAc(,|VED!X|zC%>D |*mcYT&~|AN!v*x|UO!2d)7|ATE |RESH|!KW!S|!Q&2%Q|
 2b!z|IE%3|!o%[|a !T|STRU|$<!E|TSHE|5678|RYZHE|IOTIFI!H|@FE0|(^$8|*QPH|BLOCK &f$0|BLOCK &f$)|
 IT!~bET!~d|INS&v|+zl+k|AVA!$HA|%=HE%=&i|ALMOST | S$.|!E!_|!F S|ACUTE |DI)N|!R*M|!m$d|!7&J|!%W!S|
 $f(-|$xT |$&!o|$_$K|%IMA|%N!T|%VY |&D!W|&QYE%S|JO!3|&<)V|(u$4!P|ETA!E|AR%z!X|Ab(NbO|)6!f|C%B!A|
 +!&W|,L*c|MOUTH|LENG$k!8|&CSON&P$F|YPO&X&D!W|%vS&X&D!d|KH$rKH|DIAERE)u!T|!^+<B$[|ZAPYAT|MEKHg|
 INSIDE|IGI (j|HETHe|ISH |THER|DIALYTI|ESE |!m(Z|a (j|!s$E6|!u%[|b7$E|!7$d|$d)f|$m)q|$m(UTS|$)!p|
 VOWEL |%I&.|%h$Z%.|%p!m|dNUNd|MACR!c|&g+x|!5PLE|)G!m|AIdIaIc|!n$2$)|)&$j|*D!P|*E%h)C|C%BER|*Z$m|
 KAF!E|*2EbOc|OF CLUB|*7.L|*9!H|+$!^|!hRA!,|WHEEL|-0$I|:B&7|HYPHEN|KOMI |YZ&P$,)A+T|$BIVALENT TO|
 MYAN!e|eOUB!NDANDA| SHO|HE$K|ACE |TIP |LEFTz|LEFTW!S|POVOD|TE$K|FILL|!]!R|!_LE%T|$)!n|%I&y|RE!VSE|
 %U(5|%U(6|&M$g|&g!o|P(&$z|W%V%?E|)W!m|INDIC|)[!E|*h+R|IT!~b)8d|*.UbV|RIS!P|+.$j|+^AL|BALLO|*oPH!X|
 8b9c|-VASf|TAK4|$s3$s4$s|S ICHO|7$s8$s9|&IS!Y$z)m(c$7|$3LIfDASIAf&0$aIAp&z$aIAp&0OXIAo&z|RTAG|
 T $m|ICE |!T$0|!lRA |z!tIC|!7(Z|WA!0|!]&u|MOON|BE$K|STAR|$g,!|00!&|-TH);|$7!T|TSAd|RE!V)L|%1!_S |
 2 $q|NUMBER|&n!q|&n!8|&>(f|(B&w|(Bf$U|(3$8|(.GAc|$vISPO$hI !T|)G!7|FLOOR%?E|OC$[|*qj+N|*<$*|+c!u|
 $aIANT !L|NEG!w!0|.OS B$[|LAbLA|.6hPHIEUPH|(Yg%c|H!ZUL |ARRI!A| SY%<B!N|DAS+*|OG!4K|%L!*s&p(J|
 ,k.=*n$Pr|BIG YUS|TABU++|IG&yTAUdUPSI$YhPHIdCHId$3d(x|)MfBETAeGAM&yDELTAf+4hZETAeETAd&mTAf*^e&QPAf
 &aDAfMUcNUcXIc.%hPIc|-(kg|GLASS|ALLA|ALIZ|ARY | SLASH|ANCE|!B!C|OUS |BO!S|TA$K|UPW!S|MALE|DA(G|
 OMAN|!n!p|!n%F|!p$2|EbOb|0b1b2|VS12|WAVE|CHWA|![(5|![(6|$vSON|U %C|%u$]|%9!q|&D!d|O!$M |)W!7|)3ER|
 &p!)$l|*Vb7|*fSADHE|QUOT&Wz|QUOT$z&k|SY:M|zB;5|TWELFTH|UPSI$Y!E|+=&M|WAYS |FOOT| SOLIDUS|SH(2TAW|
 NUMER|%K&KDE|THROUGH |%1(-%[|-PILLA|OBLIQUE$M|!Q *_|OF SPADES|LOZENGE|.?:X*n!*s|YODHe&QHe.!HgMEM|
 HIRAG(s|+vfH);g!KTYeIFTYf$iTYeEV!YY|LED |ALAY|!E)f|OUT |BOOK|R!GTW!S|LAM |MAI |!p$D|!p%F|SHAR|
 FILI|PHIEUPH|IN!?!B|$Q(?|$S%m|$ZALLE|$g$J|$j*:|$j!T!n|$t$]|FE$K|O !D|%p!7|DIA$=AL|2 %C|IN!V)L|
 &1!q|bCbQbX|$.POON|&(!7|&)%$|&)&6|(W%&z|(i&7|)R$>D |)(!m|*A!P|QUE$C|*QP$K|KAFd|*7:Z|*^!E|+vg+L|
 +1Ac|+1Ad|,p$G|EYES|TACK |.sWAd|)!SEC&c|GAN2 )=|$&*~!q|BIRGA|!-*j!T|%:e%t|!$!0).m|;i!T|SUCCEEDS |
 -$:P!H|FILLER|)KAK(s|.$$6+J|<L5$s6$s|WAVY |WRIST FLEX|G!xK*A|DANDA;8m|ALTIRE|):RUP!N|&ICEDES |
 z+UNY NEUME!hRELA|!n*sq!p*s|=rhE!,YgN!3TY|-1b2|WIND|ARAE|AN C|H *3|HAIR|AbIb|SI!c|MAEM|@112|TETHe|
 TE!SROP|!c$U&w|A %C|!l S|!n$D|!p!]|a TED%3|!q)%|!u*u|SEONG |YESIE%3|WAAe&b|NGGU|ULL |BE:J|MEDI!B|
 STRO|$ZAT%X|$g!_|$t(?|$t%]$]|$4(t|OFT |OF(h|%L!)k$P|%NT&3|%u(?|BUT |&ISS!H|&^&w|(XNUB|LEN!v&v|
 )E$F|H!FED|G&%2|))eH$r|UDATTA|SEC)p|*E SA(G|*P$j|-!i!f|-!i!s|*j,h|*p:j|OF C$.AC!.|*9ER|*!!o|
 P!kB!k%-%7RA|*]YUS|+UNY:[&k|+X!E|+YD |+h(XCOPT!X|,SaST|,l&e|,z!E|EARTH|0b1$E|WID$k|BETWEEN|IMAGE |
 fDALETHg|R%S)y|*ySSED-&R|T(TS|&qGOL([|)?j!6)?|.S,6*F,m|MAHAAPRA(s|!DA+GfBETHeGIMEL|-(~(R|F%V!P|
 SI!I%3UN |DOES (W|$mBAMBOOS|<POXIAo&0*tv&z*t|QUAD |DODE)KA|UND!A|$Q%]$]|$YSUM|$f,aD|$8LEAF|
 %MROT$6-|%b!T!n|$;NS.7|%hMIC|ET!~c|IN!VTED|bIbOb|(C&KFTz|TONGU|),UOT!~d)7|)-LIN!H|*E(L)C|
 $U CURV!H|*UD)5|KASKAL|QUOT&W|+WPLIC$6|!hRA$N|,N(XCOPT!X|$aIANT )m|PRIME| SOLID$y|BULLE|BETWE$C|
 EX$w.8|:5%&z|VOICE$5)>|POS!?ON|WIbEEb| S K:t|;RKA !T|%1+rS B$[|),:g)8c|ANTI&q|!M!d)?|EL+eSIS|
 %vDUCT|BUBBLE|ITER&W|MEASURE|TIBET!:|!g$^$]|%Y$2%X|)PAB $q|CRYPTO!$M|z(p(=|AL)^RA(s|)*$hT OF|
 ):(TT |!n*dp!p*d|dELEVENgTWELVE|(7UbVc|ITALIC&2| SASAK|AB$_SI|SEMIC(9|DIALECT-P |$8BACKH!T(>|
 $8V$,LEAF|NOR!I*WGROU|RcLLr%qVOCAL!XLaL|SHORT-TWIG-|QUEENfROOKeBISHOP|PIN;0&;|;mOaOdY|%L%5q+o%5|
 LUNATE SIGMA$W|CRIPT |a(o((bH| CLEF|TIETH|MILL%0|OPPOS!P|!^,GB$[|POINT |$E5b6|FAC!P|$9T&3|LIMIT|
 G!xK |%FB$[|DRA$=|RE!VSED|%R!Rv|%u%]$]|dZAY+H;O|)o C!r!N|F!F!A|OGDI!:|OC&vO|(F(ga:Yk*-|a%ebCc|
 GLOTT!B|GHAIN!E|,RKNUCK|WAd&b|,K(R,%|,K(R.C|,K(R.w|%hC&P|%hC&c|NUMER!B|MAHAP(T|!yT!PFLOOR|
 EX$w)y!tIC-IND!X|DIVI&E|WEST-C!x S|WEST-C!x)$|!yT(tHEST|3$E,p|UPc!%|PAN&Fh|!U C:2|TE+G!^|G$?%DGAR|
 *if&,f&Fe|=p;hSA;L|(~*vS S&IAD |$s.x>X<N$I!<d|NAS&QI |NUKTAf:3n.-R|(3STEM &n&?+P|>hg+L|FOL&E|
 ENVELOPE|DOLLAR|AYISI |TALENTS|$EWEd&b|$8BUD|CHh;Hh<3h)Y|%c-:pCK&2|NEPOSTO(wYA|TUAREG YA|
 D!YISTRY&&%b|!yT!PF$-T W%V|POWERS $m!+zTEL|fHIR(Ai!+(AhIF(Ah$i(AgEV!YEENjE!G(AiN!3| CRESC!Y|
 DIVIS%0|EST-C!;|MADDA |!gcH!x|YEORIN|IZ!ySA|DIGAMMA|$e&2%Q|NEITH!A|$_MTI |%m%]$]|%x%b&f|BUILD!F|
 &FdS!Z&F|&zOXIA !T|&z$aIA !T|&0OXIA !T|AS!.IS|OPERAT%X|DOTTED|DOTTE$5|)o C!YRE |K!kGAc|*>%%%b|
 *?%%%b&f|+c!V!v:;|BULLET|$ZA!$PH|$&*~&?|POS!?!c|VOLAPUK |APOSTROPHE|%H%O+Z$w|FIVE S+0z|VETLAYAi|
 $5E$Z%.|BISHOP |TE$C()|&uf%yf+wk&)q|AIR%?E|JAPAN;S|HOLD!P|zS!=$d|?e?W+7)c|OR.4%&|WOOe&b|WIIe&b|
 B&3SLASH|ALI GALI |ZIGZAG |!yT(tEIL!F|BRIDGE |INDE(0D!Y S$aITA|PLAS!vSk|-&U STAFF|VRACHYg&(g|
 MEDEFAIDRIN|$$TE$5HA.g$D|EXTREME(z|ETHIOPIC| SCISSOR| S KHOKHLOM !c|<$%L$Pr+o|,=!)oZA%)!)p%L!)pNO
 !c!)p|K!Fe[WgKN!,gPAWN|JIHVAMULIYAlUPADH(mIYA|l$f%Wk(l%Wn%;%Wl*K%Wm*X%Wk*b%Wn)i%Wn*z|ON%I!P|
 OR!ZE |T OF C|!RzC*x|!n(e)u|a MURDAi|!3AR C(9|POIN!.|UMBRE%<|E!, S+0z|%L!)$l|ZEROe%O|!*n%5r|
 ROTUNDA|%t)U$x&s|%:)U$x&s|&mSPI!:|(SF!J |)SERIF|VISARGA |TIKEUT-|KASRA |NEUTRALh|TWEL!0|,I..:y|
 ,I;::y|F!J$w!H|&CSONANT |.P!ldOR|)aX S+0z|FL!9ISH|)!SEC%l|:P)S;p|THROUGH|z+UNY NEUME |$I!<aAd|
 TE+G!4|<4g)e!F|(0TA$=|m+8(F(gbL|DIA$=AL$M!7|>KmUN%0|VIYANIi|CHARAC(r|AP%vXI%=ELY |YIG MGO |SE&CD |
 %[:qATTAC+*|%]:S&?|LYU$>VAYA|b(NbObWAe|AR$hI!:|EN(ySURE|!IO POVY)+|SHIFT |$U-!D%s|FUNC&c|ORIGIN!B|
 ENfTEHcHEHe|JEx$n;4|*kp!]*k,W|JIBWAY |,-*!%J!C|(Yg+W+Di?U|<r&5:b&r)B)x%-|+t-B(TCH-|GORAZDO |
 TW,ZETH|TAMIL |IRGHIZ |POINTED&;|%E)3Y |UKRAIN([|gNIEUNf,&|*3!t,[TAH |+d;x!D|%R$SWIDE-HEADE$5|
 NEG!wVE$(!H|;y+rh)Fi%1+r|;(Sj=xSz|Z)DAc-Ac*F|$XMeNO,YSEENe)[dFEHdSADd|<)R*;&mTA$WmS<(nNABLAf!6<)R
 *;,~ SIGMAlS<(l$ZTI!BDIFFER,ZALu+4$Wo&mTA$Wm&QPA$WmPHI$WkRHO$WkPI|RESCENT |RAbIbUbEbOc|a WR,XLEDi|
 IGATURE |!5!ZULAR C(9|!4dFIVEe|%hMI:!T |!lRA$4DU |QUES%l&k|EK,t!?KON|&FePAN&F|OBLIQUE |POVYSHE |
 *if&,f(8&,|(~*vS S&IAD|TAI LA!P|$L!F!O$o)0|$L!F!O$o+F|$ZTI!B&9|DIA$=AL$M!m| CLOS!HBY|CHARAC!.|
 AP%vXI%=E|$U(hD $D|$g;n*?g(V|zS*h;s%J|BOL$5HAFTz|PAI)%!RS|IN!L$6%h>!|(^$:.g$D|EGYPTO.P|INFINITY|
 MOBI!NPH|%_)kj%g)k|)T(M!)k$P|UOXbc)7|)*CTR!X|[K]N(AiTW!YY|WIGG(zFENCE|ANYAKA |DEV<S+3ROL |AS-SALAA
 M|$5UBUNIT|(NbO@AB|(3TO-!p| KRYUKOVAYA |FTHORA |N!R&KFTz|U!2bRXbcYT&~|nRUDI$h,?|AL$>M+T| SKEW!H|
 !E<POXIA&:|QUIGG!N|!n)Fj!p)F|!o)a*D$?|Ib&_aHcOa|ISOSC)*S !p|STACCAT|FAC:8VASTI!U|$iTY-!+|$&!-%).t|
 %M)_VEL-|%]PAI)%!RSz|HIEROGLY|&V,~k,~|&3NOWLEDGE|(cODD ]MUGU +$|(^TO-!n|*W)dT!W|*v-POST |*5-WELS
 H |NIKOLSBURG |+c%D!^![+i|ANS-SERIF&2|FIFTYf+L|;9GI PIECE|=;z$9%R|&uf%yf+wk&lf&)|CUATRILLO|
 NIZKO?;M !c|[B*4&jSz|[IC!r&vARC|[%%H$f!oi(l|NA,:!-,i;KAYA>f|%Wm!^$*m$f$*l(l$*o%;$*m*K$*n*X$*l*b$*o
 )i$*o*z$*n,A$*lW!YY $*oHIR&h$*p!K&h$*nIF&h$*o$i&h$*nEV!YY $*qE!,Y $*pN!3&h|ANc+~dGANdDONdENcVINdZE
 NdTANdINcKANdLASd(mdN+nONc$ZdZ$.eRAEdSANdT+nUNcPHAReKHAReGHANeQ+nSH(2CHINdANdJILdCILcHAReXANdJHANe
 HAEcEbIEdWEc$.c|HAbIbUbEbOc|%bC!YR<.$6|(LLL FLOPPY DISK|.BjS]xTRESVETLAYA|&ICEDESiSUCCEED|OF SPADE
 So|ANADIAN SY%<BICS |!]!T*>(Y%%!]|BUTT!cMOUSE|GI MGO RGYAN|GAD %DGAD [<|&z<sYPO&X&D!d|
 &z<s%vS&X&D!W|*N)m=fIC$F|!-*j=h)f!m|!-*j=h)f!7|FARSI YEHj|JK UNIFI!H*oPH-|d(4**j**dSA;L|IN SILHOUE
 TT|*T+A,6TS%fDZ%f|GOSYN&mTON|E %rnYU %r|DIATONIKI |WES&4 PWO KAR$C|%vSTAYAiMRACH|(kg(8(kl(k-&Fl,va
 -))f)Yl|*6 )2,Q.mz| C!YRED)0($|<HTELE!$PH&&(c|FIRST*WUNIT|F,yfDAM&yKASRA|>Zk)e!Fa >Z|?IbRAdLAb<2e
 ,m|]6[t>s[>AY(2=TfQOPHe:ie=e|(~<1s?=uSEV$C<1|*GAc&[T!k(,&rP!k)x%-TS%fDZAd|PRISHTHA%=RA |!]PRIME =U
 |&qO!$PH UK|&0:ax&z:ax&0$aIA !T|&0%vS&Xy&z%vS&Xy&0$aIA !T|(b$7&RzOL$5[w|(.ELbMbNcOb*fERbScTEc|
 RE&ZFLEX C|)DTSEd$>d$:b%z|*F)ZS%!j%qIb|*&a-(kg[=<3h)Yl|*:%cx!]!T%t(Y%%!]|!T!n%cw!]!T%:(Y%%!]|
 ,aD $D!p:Q|,l&e$f*<TW!YY|.:ACROPHON!X|ANiDAM%=ANiKASRAT|:0UOT!~d)7:e|$aIA !T:ax:anOXIA !T:a|
 :-(vt!p:-(vu|)KAKANA-=q|b*1TEb*1UbVEcX|REPET!?!c!8|BEHd%aMeDAL|)cdZA(2HAHdTAHd|?i&CTA%)AS |
 ?,!8rSEMI-?,!8z|?:dSEBATBEIT |OTTAVA ALTAeBASSA|!S)nYERUeSOFT)n|MUOY ROCiPII ROChBEI ROCgU!cROC|
 MUOY KOETjPII KOETiBEI KOEThU!cKOET|j:mf))f(8))kCH$r|!n(i(vs!p(i(vt!n|^>So!4)aX(ATHj.Ok.Z)aX(ATH|
 6w*t:oYPO&X&D!d|zDEVANAGARI|&ad^]+XdREHd)+^4$_HeTHALeDADdZAHdGHA|-SIMPLIFIE$5|-WAY !nWAY )_FFIC|
 -NO-EVIL &q,E|SHTAeTSIdCHRIVIg$:dYERUbId!w|%1*<FIFTE$C(R|YOcIOTATED!OYUSr<%hIOT%*<%pF|UdBUKYeVEDEe
 G)POLIhDOBROfYESTUfZHIVETE|;Aq?7o<k+I]B+I$vC!Y,cAM$vS!liPOSTROPHEk>gr)Ji)E)n;;;3-,7m()jSOLIDUSh,5C
 (9f[Pj*q!Uo,Ol+N+J,on%IMERCI!BATn?[vEFT)U(vt;<=do!,)U(vu(K).r%g&Ui>Q.a)?tEFT ,4(vs$7&Un!p,4(vt|
 JAgIZHEdN!?!BIZHElbDJERVIgKAKOeLJUDIJEhMYS%~EhNASHIfONUdPOKOJIgRITSIfSLOVOfTVRIDOgUKUdFRITUfHER"

end TextProtocol.Text.CharacterName
