/-!
# Character names from U+1F000 to U+E01EF

The names of these characters, in the encoding of `CharacterName`.
-/

namespace TextProtocol.Text.CharacterName

/-- The names of the characters from U+1F000 to U+E01EF. -/
def from1F000 : String :=
  "&:000aMAHJONG TI!N&8>jjS&>>jk(f>jj&]>jk)%[pk$u$C[pm$D[pm!^?FSr$f?FSq(l?FSt%;?FSr*K?FSs*X?FSq*b?FS
 t)i?FSt*z?FSs!^?jo$f?jn(l?jq%;?jo*K?jp*X?jn*b?jq)i?jq*z?jp!^>*So$f>*Sn(l>*Sq%;>*So*K>*Sp*X>*S
 n*b>*Sq)i>*Sq*z>*SpPLUMeORCHIDgBAMBOOgCHRYS&PHEMUMnSP(afUMMERgAUTUMNgW)!gJOKERfB&3&:030rDO&!O TI!N
 &1B&3f-00;1e1;1e2;1e3;1e4;1e5;1e6;1q$7B&3f-00;1e1;1e2;1e3;1e4;1e5;1e6;1&:0A0zPLAY(tARD B&3e;$=m
 n$f=mm(l=mp%;=mn*K~F*X=mm*b=mp)i=mp*z~F,A=mnJACK ~F,l=mq=~=mpK!P=m&:0B1o;$;bn$f;bm(l;bp%;;bn*K;b
 o*X;bm*b;bp)i;bp*z;bo,A;bnJACK ;bo,l;bq=~;bpK!P;bo)%JOKER&:0C1j;$;aSp$f;aSo(l;aSr%;;aSp*K;aSq*X;aS
 o*b;aSr)i;aSr*z;aSq,A;aSpJACK ;aSq,l;aSs=~;aSrK!P;aSq$%JOKER&:0D1l;$;vSm$f;vSl(l;vSo%;;vSm*K;vS
 n*X;vSl*b;vSo)i;vSo*z;vSn,A;vSmJACK ;vSn,l;vSp=~;vSoK!P;vSn$DJOKERlFOOLeTRUMP*V!<b.x0b1&:100
 v%^O ()j:.k!^:.j!g(uMAi(l:.l!+(uMAj*K:.k$i(uMAiEVEN(uMAl)i:.l*z:.oNGBAT(h$5,(%^OzD!FB)2<0%4$5,(%^O
 :dZERO )SLASHp:f!Rt]B!U!E%9LAID ]!z(eSIZ!H?[z:B$x%d!M&2%Q:dITAL!X!M!dCbR:dCDcWZjOPY%:$WpS!=!H?[wHV
 cMVcSDbScPPVdWCk<0,g?[z,RMC!UgD!UgR!Uo,gCCb!E%9LAID ]!:dHUM!:FIGUREu^=?[zCROSS!H^=!M!dPz^=IC
 c)B,.ABcWCtS.iDJdD CLbOOLeF!xeIDcNEWcGcOKcSOSdUP!E;AyVSc%1DhSE&C$5+-ENn$fKf!+ Kg)iKh(~[i!4
 oSEV$C[i!4pTW!YY-$f[i!gu$i&hPh!^*<TW!YY Pu.aDuHCbDRcI-RESgLOSSLESSiSHVdUHDdVODlMASK +YK$W&:1E6
 qREG%0!B;~%.&&!D)?zS.i=qHOKAoD >VKOKOeSA&:210lC~R624Be5B57d3CCzS!=!H>VDElC~R4E8Ce591Ae89E3e5929
 e4EA4e6620e7121e6599e524DdF8Cd18De65B0e521De7D42d51Fe8CA9e58F0d439e6F14d295d355e4E00b9e904Ae5DE6
 e4E2De53F3e6307e8D70e6253e7981dA7Ae5408e6E80d709b8e7533e5272d5B6e914D&:240z:B$x%dC~R672Ce4E09c8C
 e5B89e70B9e6253e76D7e52DDe6557&:250:d*oPH ADVANTAGEiCCEPT&:260yR%SDED&&(cFUcLUcSHOUeXIcSHU!ZXI
 iCAI&:300wCYCL!4hFOGGYf+>^GpN$N!-&;SqSUNRISE %DM%STAINSphCITYSCAPE )2DUSKrSUN*Z%D]bSvRAINBOW
 h]()2N!,pWAT!A=FkVOLCANOh*DKY WAYjEAR$kGLOBE EUROPE-AF+mAnAMERICAShSIA-AUSTRALIAzGLOB$dMERIDIANS
 uNEW <Z$WpWAX(t^_<Z.EFIRST ,G<Z.EWAX!PGIBB<><Z.EF>6<Z$WqWAN!PGIBB<><Z.ELAST ,G<Z$WyWAN(t^_<Z$W
 zC^_<ZnNEW MO&B%jsFIRST ,GMO&B%jzLAST ,GMO&B%jzF>6MO&B%jtSUN!E%jnG!!!F&;mSHOOT!F&;n;QMOME!.
 l$%DRO+DTn(B SUNa *3CLOUDqBEHIND CLOUD(bRAINzCLOU(GRAINeSNOWe(qN!Fj(1NADOsFOGdWIND BLOW+prHOT DOG
 hTACOeBURRITOh$>STNUTiSEEDL!FiE!V$u$CT!xoDECIDU<>T!xo&=M T!xjCACTUSgHOT PEP$vkTULIPfCHERRY BLOSSOM
 oROSEeHIBISCUSiSUNF!!ERjBLOSSOMhE$?$mMAIZEf+mElHERBe%;LEAF CLO!VqMAP!NLEAFkFALLEN LEAFlLEAF FLUTTE
 R!P%)>jx)AHROOMiTO%=OgAUBERG!3j!$PESgME$YfW%8ME$YkT!ZER!3jLE&qf+~ANAgP!3AP+Dj)%AP+Dj$u$CAP+DlPEAR
 bCHfCHERRIESiSTRAWBERRYk&$BURGERjS*LE $mPIZZAoME)2!cB!4mPOULTRY ,<l+mE C$OKERh.TjCOOK!H+mE
 kURRY !T+mEoSTEAM!PBOWLmPAGHETTIj%EADfF:FCH FRIESmROASTE$5WEET POTATOuD!ZOfODENeSUSHIfFRIE$5HRIMP
 l;PCAKE )SWIRL DE!>zS>)<S+-AMnHAV!HICEk<S+-AMjDOUGHNUTiCOOKIEfHOCO!JE !qm!lYfLOLLIPOPiCUST!S
 hH!4Y POTjSHORTCAKEjBEN$2,DjPO<RFOODlCOOK,>!KK !TKNIFEoTEAC$9!-=v%kLEvSAKE BOTT!N!TCUPtW$,<+
 kCOCKTAIL <+o&ZP&iDR,XoBE!AMUGiCL,X!PBE!AMUGSsBABY BOTTLEl!KK !TKNIF$dP!JEzBOTTLE!EPOPP(tORK
 yPOPC%BhRIBBONgWRAPP!H&IS!YpBIRTHDAY CAKEnJ&3-O-)9&4oCHRISTMAS T!xoF)3!ACHRISTMASpIRE+YKSb S$ZKLER
 r<GONh$Z&hPOP$vm&CFETTI .TnTANABATA T!xn)t!HF)PSnP$,DECOR$6p]3DOLLSo&TP!hREAMERnWIND CHIME
 kMO!cVIEW!F CERE&qYvSCHOOL SAT$>Lo!$DU$6 CAPo(U&s;%!c+,;&BOUQUE<RF!!ERSsMI%~<:MEDALoRE&!D!ARIBBON
 p)A&i,EBOAR(GJ&3SzSTUDIO MICROPH!4rLEVEL SLI&Em+3ROL KNOBSnBEAM!HASCEND!P)A&i)RESxDESCEND!P)A&i)RE
 SzFILM FRAMESlADMIS>p!vKETSr&TOUSEL $HSEoFERRIS ;0mROLLER COAS!.o%(H!PPO!N!T%(HvMICROPH!4jOVIE CAM
 ERAmC!3MAg$APH!4jARTIST PALETTEo*=HAThC!r$yT!Yl!vKETgCLAPP!A<?n$v!L!PARTSpVIDEO GAMEk:!T !y
 kSLOT MACH!3mBILLI!SSjGAME DIEiBOWL,>F$0PLAY(t!SSu)A&i*akLTIP!N)A&i)RESwSAXOPH!4jGUITARg)A&i,E<?
 qTRUMPEThVIOLINg)AICAL SCOREnRUNN!F)$IRT )S&tx$wNIS $OQUET !T.TxSKI >wKI BOOTqBASKETBALL !THOOP
 t$>QUER!HF)PoSNOW<?ERlRUNNERgSURFERfPORTS MEDALm&ZPHYg$H)L$O!FmAMERIC!:=c.TrRUGBY =c.ToSWIMMER
 hWE$NLIF!.nGOLFERg$O!PMO(1CYCLEk&TkC+mKET BAT(+.TuVOLLEY.TkFIELD HOC,E!hICK !T.Tz<SHOC,E!hICK !TPU
 CKzTAB!N$wNIS PADD!N!T.TzSNOW CAPP!HM%S.cuCAMP,>BEAC$K^GsUILD(tON:pC&cvHOU)L]bSpCITYSCAPEj&EELIC
 T HOU)L]bxCLASS&i]bsDESERTa ISL!lnN$6!B$ZKnSTADIUMhHOU)L]bi!CG!SENrOFF<S]bp]3POST OFFICEuEUROPE!:P
 OST OFFICEuHOSPITALi+~KeAUTOM%*TELLER MACH!3yHOTELfLO!0HOTELk&CVENIENCE!hORErSCHOOLgDE$ZT&+!hORE
 qFAC(1YhIZAKA,:)9&4p]3CASTLEpEUROPE>lASTLEp$D(0N&Pn$%(0N&PnWAV!P$DF)Pk$%F)PrROSETTEh$%ROSETTEnLA!j
 f:D&!T!c$OQUET !l)$UTTLECOCKzBOW(+!RnAMPHORAhEMOJI (pFITZPAT+mK TYPE-1-2d!zzRATdMOUSEfOXcWAT!ABUFF
 ALOnCOWdTIGERfLEOP!ShRABBITgCATd[pg*yCODILEjWHALEfSNAILcKEf$HSEfRAMdGOATeSHEEPf&q,EgROOS!.hCHICKEN
 hDOGdPIGdBOARe)*PH&PiOC$1UShSPIRAL(LLLmBUGd&PdH!4YBEEiLADY BEETLEl%(He&ZP&i%(HnBLOW%(Hi$;TLE
 gHATCH(tHICKoBABY CHICKkF$-T-[kBABY CHICKxBIRDe(0GUINhKOALAfPOODLEgDROMEDARY CAMELpBAC!5>lAMEL
 oDOLPHINhMOU)L%jkCOW %jiTIG!A%jkRABBIT %jlC)2%jiDRAG!c%jlSP)-!PWHALEo$H)L%jk&qKEY %jlDOG %jiPIG %j
 iFROG %jj&$ST!A%jmWOLF %jjBE$?%jjP!lA %jjIG NOSEhAW PRINTSkCHIPMUNKi>Hbc+nNOSEe;Cf?0E
 g$D$9[R+F%N[R+F!n[R+F!p[Rz%(%d%k!UqWAV!P%k!UqOK %k,c%2S UP!Uh!%!UqCLAPP!P%k)jt(I%k)jpC.1NfW<~S HAT
 k:E<+ESkNECKTIEhT-SHIRThJEANSfDRESSfKI&qOgBIKINIgW<~S (y&mSoPURSEf%kBAGhPOUCHf(mS SHOEj)3LE!v;9E
 nH!G-HE)*$5HOEqWOMANS S!lALgBOOTSm=cPRINTSkBUST ~TEoS ~TEsOYdGIRLe(mdW<~fFAMILYgM!:!TWOM!:]4%kS
 z$fM$C]4%kSrWOM$C]4%kSxPO*LE OFFICERoW<~!EBUNNY EARSvBRID$dVEILp$vS&BBLOND >nw(m!EGUA PI MAOk$;+~
 pOLD!A(mdW<~lBABYe&C:pC%l+YKERtPRINC,bi]3O$ueGOBLINpGHOSTfBABY !ZELkEXTR%8RES!5!BALIENwALI$C&qS!.
 nIMPdSKULLfIN!L$zDESK =JxGU!SS(mjDANCERg+eS!vKiNAIL POLISHl:PMASSAGEmHA!rUTh!qB!APOLElSY(aEhPILL
 eKISS !8jLO!0$bl(aeGEM!h!4jKISSeBOUQUEThCOU+D!E.orWEDD,>BEAT!P.omROK$C.om$f(UTSkS$ZKL!P.opGROW!P.o
 n(U&s.9BLUE .ok$u$C.olYEL%g.omPURP!N.om(U&sRIBBONrREVOLV!P(UTSq(UT DECOR$6q(H$5HAP$dA ![;M
 z_h%bBULBt!ZER$WmBOMBeSLEEP!F$WpCOLLIS%0$WqSPLASH:8WEAT$WwDRO+DTg&t$WlPI!N$mPOOlFLEX!HBICEPS
 nDIZZY$WmSPEECH <GONoTHOUGHT <GONp$DF!!ERm*<$LS$WvM!4Y BAGj&G:FCY EXCH!ZEr$j]B+J+-DIT C!S
 l+~K)R$dYEN!Ui]B+IEURO)nP%SD!UyM!4.VW!FSqCHAR&s%mTR)~!TYEN!UzSEATe=J!B%IPU!.rBRIEFCASEj&!IDISC
 iFLOPPY DISKlOP!v!B)zCmDVDdFI!N[-l(IFI!N[-qPAG$d,Jj[kUPoCALENDARiTEAR-OFF CALENDARr&TD (>
 j$.&s%mTRENDn%uTRENDz!q C$.TjC+e<?jP,_PINhR)>P,_PINn)^ERC+ejSTRA$NRULERo.+RULERq=w&kTABSnLEDGER
 g*a=w(bDECOR!w!0C%9zCLOS!H=wl(I=wj$u$C=wkBLUE =wj]-=wl=wSfNAME :DGEkSCROLLgMEMOe[;RECEI!VsPAGER
 fFAX MACH!3lSATEL%~E AN$wNArPUBL!XADDRE%TLOUDSPEAKERzCHEER!PMEGAPH!4s)-BOX )_YlINBOX )_YkPACKAGE
 hE-MAIL$WnIN%I!P]ArENVELOP$d%u:+zCLOS!HMAIL,D!E!!ER!HF)Pm,RF)Pz(IMAIL,D!E,RF)Pl!!ER!HF)PzPOST,D
 d!B$HNlNEWS)^ERj_d!4(b$Q$&)2;&VIBR$zMODEo_d!^OFFq.A_dONESqAN$wNA!E!qSrCAMERA(bFLASHrVIDEO CAMERA
 mTELEVIS%0kRADIOfVIDEOCASSETTEnFILM %vJEC(1oPORTABLE!hEREOoRAY!ABEADSmTWIS%d$Q!RSzC*x$Q!T$t[u!RS(b
 ,g!^,hzC*x%u!T%m[u!RSz:f%u!T%m[u!RSz%gB%tN,b$Wv%_B%tN,b$WwSPEAK!A!CCANCEL++$MzSPEAKER(b!4 S)>=F
 o.Z S)>=FSzBAT!.Yh_hPLUGn<qMAGNIFY!P<+z:wMAGNIFY!P<+z$[!EINK (0r+>$[!E,Eu,Ed$[e(I$[j!jL(bCANCEL++
 $Mz=w!8iL,X$WlRADIO BUTTONmB&3!E$t:+zEN(G$t:+z&B;A!E<-:+zSO&B$Q:+z$1!E%m:+z.A!^?nE!G(A.E,ECAP $w
 kINPUT&&(c!M&2$bSp!6$bSt<kShSYMBOLSh!M $bSzFIREe_h(1CHoWRENCHg&$MERgNUT !TBOLTmHOCHOfPISTOL
 gMICROSCOPEkTELESCOPEjCRYST!B.Tm*X^*!E>$zJAPANESE&&(cBEGINNERz!5D:IEMBLEMo$U)UBUTTONt(B)UBUTTON
 t*R)%%4kBLUE %4l]-)qoBLUE )qs!6]-)qoBLUE )qsUP-$8)%$oy!%-$8)%$ozUP-$L!F!O)%$oz!%-$L!F!O)%$o
 z$0%t&K.g.j.3%t&K.g.j:d*y%TPOM$XtRO%TPOMME$d)F-(!!uxm=]%:?v%>!E%1!_Sz=]%t?v%>!E%1,HzSY:M(c!8S %zP
 !.y$D!M*Ar$j!M*ArCEL!v*AmOM$WjDO!0$mPEACEnKAABAfMOSQUEgSYNAGOGUEj$hORA$K*zB(T$>SzBOWL $mHYGIEIA
 p(yCK :P!^<vk$f<vj(l<vm%;<vk*K<vl*X<vj*b<vm)i<vm*z<vl,A<vk)*V$C<vn^V<vn!4<ek!g<ejH!x<em!+<ekIVE<e
 l$i<ejEVEN<emE!,<emN!3<el$w<ek)*VEN<enTWELVE<ey%t SPEAKER(b!4 S)>=Fo.Z S)>=FSzBULL$HNa )S)>=FS
 z(a!P!jLm=weC!lLEgM&PELPIECE C$[r$U SK>6!T)tBONESz.API$OYjHOLEeM!:%)BUSINESS SUIT LEVITAT!F
 zSLEUTH OR)1YnDARK S%3LASSESpSPIDERa WEBkJOYS!vKiM!:DANC!Fl!nH!T[;RECEI!Vz[;RECEIV!A!CPAGE
 z!pH!T[;RECEI!V+FTOUCH&n^i)0TOUCH&n^iz[;!c*=$mMODEMzC&a)+LL _d!4wBACK $m]AqSTAMP!H]AqENVELOP$d(qN
 !FxFLY!P]ApP$C%9 STAMP!H]AzLINK!H)^ERC+eSr$%P,_PINn.l(0CILg.T[i(0nF%STA%)(0mPAINTBR,_kCRAYON
 qEFT WRIT!P%kr%,OK %k!Ut,RH!T!C*vS)1LAYEDz&H,RH!T!C*vS)1LAYEDz&H%2S UP!Uh!%!UqVIC(1Y %k
 mH!T!C$g[vEX$wDEDz,RH!T!C$ZT ?)$g!T&g*vSz$D%N$8!nH!T(>zSIDE=b$D!n:Qt!p:QzSIDE=b$%!n:Q
 t!p:Q)0!n[R)0!p[RzSIDE=b$D$9:Qr%N:QzSIDE=b$%$9:Qr%N:Q)0$9[R)0%N[R)0.olDESK$1(uPU!.q,EBOARD !TMOUSE
 s%1NETWORK!H%IPU!.SzPR)!gOCKET CALCU!JORr$%H!S~C+FH!S~CzSOFT~CwTAPE &T!5DGEoWI)%,E<?o!^~Iq$f~I
 p(l~Ir$OK.Tj(X=J!B%IPU!.v$.D DISKjSCREENgPRIN(rICONmFAX ICONiOP!v!B)zC ICONrDOCUMEN&sTEXT:oPICTURE
 qPICTUREvFRAM$dPICTUREhTI,xf!:Xp$%[-m[-g(I[-l&TD &M[&SoFI!N,DnFILE CAB!3TmEMP&h*aa PAGEcDo*aa PAGE
 cDiEMP&hDOCUM!YiPAGEaSlDOCUM!YiPAGEaSfWASTEBASKETlSPIR!B)RE PADiCALEND$?PADtDESK*=WINDOWo&!IMIZE
 hAXIMIZEi%9LAPhC*x!p!T%:?v!r!N!RSzCANCEL!JI!cXoIN+-ASE FONT SIZE.EDE+-ASE FONT SIZE$W)b&IS.8l(X,E
 hROLLED-$9NEWS)^ERtPAG$d,gTEXTwSTOCK C$.TlDAGG!AKNIFEm+eSeSPEAK!P*M~TEz%1RAYS .&f>Pq%:)1EECH ?_
 s%t)1EECH ?_t!g)1EECH BUBB,xrH!x)1EECH BUBB,xu!nTHOUGHT ?_t!pTHOUGHT ?_u!n!Z!A?_r!p!Z!A?_sMOOD ?_
 l(qN!PMOOD ?_ho<GT ,D!E<GTp+RXiBOX )S[bXpL$5[bXlX!EBOL$5[bXz%b$>CK !8q<GT ,D!E.M$>CKz+YLD MAP
 jM%ST FUJIkTOKYO TOWERlSTATUE $mLIBERTYqILHOUETTE $mJAPANtMOYAIfGRINN+pa )S;pEYESz+uTEARS $mJOY
 wS;p+u(I;Ca >w;p>HmCOL$5WEATkT!,LY-+>>HzS;p+u$TOd%BSxW,X+pmS;p^eEYESz%j SAV!9!PDE*LI<>FOOD
 zRELIEV!H%jnS;p+u(UT-$:P!H>HrS%3LASSESzSMIRK+pn+?%jmEX&IS.8LE%T%jtUNAMUS!H%jn+uCOL$5WEATu(0SI!0%j
 m&CFUS!H%jj%S)y%jpKISS+pm:PTH.1!PA KISSuKISS!P^e>Hm+>EYESz:P!-!hUCK-=v?0E:oW,X!P:ElT!,LY-+>EYES
 z)zAP*O%jr+YRI!H%jm!ZRY %jkP)-+pmCRY+pl$vSE!V+pq+uLOOK $m!5UMPHz)zAP*O>:RELIEV!H%jzF.1N!P+u(I;C
 z!ZUIS+*%joFEARFUL %jmWE<:%jkSLEEPY %jlTI)%%jkGRIMAC+poLOUDLY CRY+ps+u(I;CuHUS+*%jl+u(IM&>!TCOL$5W
 EATz%j S+-AM!P%)FEARwASTONIS+*%jpFLUS+*%jmSLEEP+pnDIZZY %jk:P!-=v;Cj MED&iMASKwGRINN(t)2^e>H
 zC)2+uTEARS $mJOYzS*D(t)2+u(I;Ck(UT-$:P!H>HzC)2+uWRY SMILExKISS(t)2+u+>EYESzP)-(t)2%jqCRY(t)2%j
 pWEARY C)2%joS(q(zF.1N+pnS*D+pvUPSIDE-%N%jq+uROLL!P>Hm.AGOOD GESTUREpOK GESTUREu$vS!cBOW!PDEEPLY
 uSEE~?s(U~?tSPEAK~?uHAPPY $vS!cRAIS!P!^%kz$vS!cRAIS!PBO$k%kS IN C)*BR$6z$vS!cF.1N!Fi!CP)-+p
 mFOL)y%kSy,M?ryS<n?ry,8?ryS+O?ry%,,M?ryS<n?ry,8?ryS+O?rz,M[SzS<n[Sz,8[SzS+O[Sz$j,M[Sz(C S<n[S
 z$j,8[Sz(C S+O[Sz,M]FxS<n]Fx,8]FxS+O]Fx$j,M]FxS<n]Fx,8]FxS+O$8BUDzHOLLOW QUILT)U&-a %)$U&wzSOLID Q
 UILT)U&-a %)$U&w,WROCKETq%mROCKETo$QROCKETr%uROCKETq+R+sET )&(C SCRIPT +sET )&+s(IET ;o+s(IET ;oAM
 $vS!T&-ySW)5AM$vS!T&-x,($j!]%,;e=V&-zS,($j%c(u&.=V&-zS,($j%g%c(u&.=V;o)!ROB!Z &-zS,()!ROB!Z )&(C S
 ,()!ROB!Z )&+.(C=dh;<=dzCHECK!A<?n<h$>CK!A<?uOCKETgHE*LOP!.kSTEAM LO%IOTIVEqRAILWAY CARlH!G-SPE!H
 )_IN(b?(T NOSEz)_+HME&Zf%bRAILkST$6h)_Ma CARiBUSd]~BUSm&ZLLEYBUSkBUS&Ai&!IBUShAMBUL<<jFIRE )4!3
 lPO*LE &Tk]~PO*LE &TtTAXIe]~TAXInAUTOMOBILEk]~AUTOMOBILEt)NRE$6!BVEHICLEuDELI+.TRUCKoAR!vU!J!HLORR
 YrT$O(1h&qORAILgUNTA%)RAILWAYqSUS(0>pRAILWAYsM%S.c CABLEWAYrAERI!B)_MWAYo.fPe.1BOAThSPEEDBOAT
 j&1)_FF!X(qy$7)_FF!X(qw&C:pC&c+JPO*LE &TS REVOLV!P(qz.+FLAG !cPOSTxDOORe.A!YRY!UnSMOK!F$WoNO SMOK
 !F$WrPUT %~T!A%)ITS PLACE.EDO (W%~!.$WuPOTAB!NW%8$WuNON-POTAB!NW%8$WyBICYCLEh.ABICYC,xlBICYCLIST
 jM%STA%)BICYCLISTsPEDES!5ANk.APEDES!5ANSoCHILD:F*A!Fr$hS$WlWOMENS$Wn,CROOMiBABY$WlTOILETgWAT!A(ySE
 TmSHOWERgB)3aTUBhPASSPORT +3ROLqCUSTOMShBAGGAGE CLAIMn!nLUGGAGEm$o!E?X;rSz%vHIBITED!Up,gIN!L$6 S!9
 CEzBOYS$WlGIRLS$WmCOUCH !T&aPoSLEEP!PAC%IMOD$6vHOPP!PBAGSn!jLHOP !jLkDdPL;$$m+Y.fPqOCTA$=AL!U
 oSHOPP!P&ZLLEYpTUPAfPAGODAgHINDU TEM+DlUTdELEV%.&:6DDiPLAYGR%S$5LIDEq;0f&gBUOYj&$M!A!TWRENCHr.fELD
 gOIL DRUMiMO(1WAYiRAILWAY T$OKnMOT%XBOATkUP-$8MI%~<:]2r]2i!6]2z!6]2oNOR&mAST-$8]2zAIR%?E DE$ZTURE
 jARRIV!F&:6F0rSATEL%~Ej]~FIRE )4!3uDIESEL LO%IOTIVErPASS)4ER SHIPoSCOO!.hMO(1 SCOO!.nCANOEfSLED
 eFLY:8AUCERnS)KE<?kAU$2+mK$:WnPICK$9TRUCKmROLLER S)KE&:700m_v(cQUINT,bENCEmAIRdFIREe?RfW%8
 fAQUA!KTISg REGIAa-2hVITAEa-2mV!3GARa-2b3jSULFURgPHILOSOPHERS SULFURt$U SULFURmMER&GY SUBLI%=Ea-2
 b3tCINNABARiSALTeNITREfVITRIOLa-2jROCK SALTa-2lGOLDeSIL!VgIR!cOREa-2k*yC$y$mIRONoREGUL$y$mIRON
 pCOPP!AOREkIRON-COPP!AOREpSUBLI%=E OF COP$vt*yC$yOF COP$va-2rOPP!A??IATEsSAL^AOPP!A??IATE
 z_v!K SUBLI%=E OF SAL^AOP$vz_v(c!VDIGRISjT%)OREhLEAD OREi??Y OREmSUBLI%=E $m??YuAL<R??YpUBLI%=E O
 F SAL<R??Yz_v(cV!3G$?$m??YtREGUL$y$m??Ya-2oa-2b!fjALKALIa-2i!eCASITEjSAL-AM&qIACmARSENIChREALGAR
 a-2jAURIPIG&+lBISMUTH ORElTARTARa-2iQUICK LIMEkBORAXa-2b3hALUMeOILdSPIRITgTINCTUREiGUMdWAXdPOW&E
 gCALXeTUTTYfCAPUT MORTUUMnSCEP(r$mJOVEpCADUCEUSi!5D!Yh<b)%!5D!YpLODEST!4jSOAPeUR!3f$H)LD%3kASHES
 fPOT ASHESjB+mKfPOW&E!HB+mKoA!IGAMhSTRATUM S*h!hRATUMa-2wUBLIM$6l&ICIPITATEl)zTILLeSOLVEa-2kPURIFY
 eTREFAC&cmCRUCIBLEa-2b!skALEMBIChBATH $m!eYeVAP!9SpRE(1TgH!9eN!,fDAY-N!,j&qTHf%FDRAMe%SCE&:780
 z$%<q_2$o)0UP-$8_2$o)0:w_2$o)0!%-$8_2$oz$U S(qLY!O%4z($.M.jy.M.jr$j.js<E.jx];$j.j+F%4.Y.c!P$U!O%4
 zR)>TARGETm$%TINY&wlS(qLY><z%b<os($<ot.M<or$j<os<E<ox];$j<oz(B)U&C.c!P$%!VY><r%K&wzS.iTARGET
 n$%TINY )qm!VY!O)qs%K!O)q+F(HD &C.c!P$%!VY!O)qs($)qz(HD TARGETo$%TINY =nm!VY!O=ns%K!O=n+FLOZENG
 E &C.c!P$U!O=nzTH%)>aq%b>ar($>as.M>aq+..M>aq$j>aw];$j>azTHIN S>cm(q S>cn%K S>coBOL$5>cm(C S>c
 n+.(C S>cs];(C S>cx%b]w($]w.M]w$j]w<E]w];$j]w(q^b%K^bBOL$5IX S+0y(C^b+.(C^b];(C^b%b^H($^H.M^H$j^H
 <E^H%b%1.~z($%1.~z%1.~y($%1*O[Xz%b%;.~z($%;.~z%;.~x($%;*O[Xz<h%b%;*O[Xz%b(~.~z$j(~.~z%K)aX .~
 z(C)aX .~z*X*O[Xz($)i.~z$j)i.~z<E)i.~z$j)i*O[Xz%b^V.~z$j^V.~k[X:d$oq<0,g$ozC%>$5!=Eo<0%4$5!=E&:7E0
 x*R]-%4nYEL!!(hn$uEN(hmPUR+D(hnB.1N(hmRE$5!=EkBLUE&wlOR!ZE&wnYEL!!&wn$uEN&wmPUR+D&wnB.1N&w&:7F0
 s$j,O&:800r$t$&*3.t%m$&*3.t$Q$&*3.t%u$&*3.t=%($.t%m$]($.t$Q$]($.t=L($.t=%*R.t%m$]*R.t$Q$]*R.t=L*R
 *4&j&:810z$t$&*3+_%m$&*3+_$Q$&*3+_%u$&*3+_=%+_%m$]+_$Q$]+_=L+_$j=%+_$j%m$]+_$j$Q$]+_$j=L+_$j=%*R+_
 $j%m$]*R+_$j$Q$]*R+_$j=L*R+_>&_s]Z_s?o_s[s_s>&%K&KFTz]Z%K&KFTz?o%K&KFTz[s%K&KFTz>&_X]Z_X?o_X[s_X>&
 ?z]Z?z?o?z[s?z>&+.?z]Z+.?z?o+.?z[s+.?z$t_)=7_).k_)$S%u_)$S;(S$(!H!Rx<]S$(!H!Rv=xS$(!H!Ry:(S$(!H!R
 x$t%I>;=7%I>;!Ry$Q%I>;$S%u%I>;.D(C(u>;=7(C(u>;.k(C(u>;$S%u(C(u>;.D$j!Rv%m$j!Rt$Q$j.b%u$j!R&:850
 v;(S S,($S<]S S,(!Ry=xS S,($S:(S S,($S&]WEST S,(!RvEAST S,($SS&>EAST S,(!RvWEST S,($S!n%t S,($S$9
 !% S,(!R&:860yWIDE$^$t%b:A%m%b%R!Ry$Q%b:A%u%b:A,M%b[r&8%b^<+O%b[r(f%b:A$t%R!Ru%m%R!Rs$Q[r%u%R!R
 u,M%R!Rp&8[rS+O%R!Rp(f[r$t($:A%m($:A$Q($:A%u($:A,M($%R.b&8($^<+O($%R.b(f($:A$t$j:A%m$j%R!R
 y$Q$j:A%u$j:A,M$j[r&8$j^<+O$j[r(f$j:A$t<E:A%m<E:A$Q<E:A%u<E:A,M<E:A,8<E^<+O<E^<<n<E%R!R&:890
 z$t.t%m.t$Q.t%u.t$t$D_6%m$D_6$Q$D_6%u$D_6=%=]&Rz%m$]=]&R+b$]=]&Rz=L=]&Rz$j!R&KFT ?T!4d?qSk!^)F
 e,aD,W*J-$:)y$D.k*J&K)y$D.D$1&K)y$D.k$1&K)y$D.D(3$:)y$D.k(^$:)y$D.D(^$:)y$D.k(3$:)y$D.DB&3-]:.kB&3
 -]:.DF$-T-]:.kF$-T-]:$S$D!R&KFT ?T!4d?qS&:8B0z$&$8%mTH$C&]WESTx$QTHEN.5V:8&>WEST&:900:d*y%T!LE$d%;
 ,Hj$f!_Sou!n)F(h!E%;,Hj%1,HjWO ,Hi!_jq!%WARD [k$Je=]$Jm$J:7n=]$J:7zPIN$>D *vSp$D.olB.1N .o
 lPINCH!P%knZIP$v-M&>%jrM!4Y-M&>%jq+u;QMOME!.vNERD %jjTH,X+pn+u$A-+~DAGEwROBOT %jkHUGG+pm%i$m+,$HNS
 rCALL ME %km,RBACK $m%kt(3[k%(Tq(^[k%(Tr%k$:KEf!E&M!T$g*vS *ySSEDzI LO!0YOU %k!Uu+uCOWBOY HAT
 uC!!N %jkNAUSE%*%joROLL!P!c+,FLO%XLAUGH!FzDROOL+pnLY+pk:P&=MjSNEEZ+pn+u!^:EB.1 RA&oDzGRINN!P:P!-!h
 $?>Hj!^*R!T!4!O:Ez+u[vC%9(tLOS!H+eSzSERI<>:P!-$WS C%9!P;CzS;p^e:ES !TH!TC%9!P;Cz+u(IM&>VOMIT!F
 zSHOCK!H+uEXPLOD!P$Az&IGNANT W<~o%EAST-FEED!Fo&=MS $9TOGE;QrSELFIEgPRINCEgM!:%)TUXEDOmOTH!ACHRISTM
 ASqSHRUGf$vS!cDO(tARTWHEELwJUGGL!FiFENCERgMO&EN P!Y)3$YrW,CLERSiAT!APOLOk%k.TiDIV!PMASKlWIL%dF!!ER
 nDRUM!EDRUMS!vKSuCL,X!P<+ESqTUMBLER <+nSPOONfGO!BNETiRIFLEfFIRST PL;$MEDALr^sPL;$MEDALs,aD PL;$MED
 ALr,D!PGLOVEm!eTI!BARTS UNI!Lu,J!F!h!4nLACROSSE!hICK !T.TxSOFT.TiFLY!P)zCl*yISS&PjAVOCADOhCUCUMBER
 iBACONfPOTATOg&TROTgBAGUETTE %EADo$uEN SALADlSHAL%gP!:$mFOODsTUFF!HF!J%EADrEGGdGLA%T$m*DKnPEANUTS
 hKIWIFRUITjPANCAKESiDUMPL!Fi!KTUNE COOKIEoTAKE=v,DlCHOPS!vKSkBOWL )SPOONpC$9!-!hRAWnO&CUThBROCCOLI
 iPIEcRETZELhCUT $mMEATlS!lWICHiCANN!HFOODlLEAFY $uENlM!ZOeOON CAKEjBAGELfS;p^e:ES !T%1(UTSzYAWN+p
 mS;p+uTEARw+u$Z&h,$$Z&hHATyUN*b:ES !T>Y;Cz%9HE%*%jpF!xZ+pnNINJAf)zGUIS!H%jo:P]4BACK TEARS
 s!C+DAD!P>HxSARIeLAB COATiGOGG,xhHIK!PBOOTlF!J;9EjCRABeLI!c%jjSCORP%0i$;,EgUNIC%B %jmEAGLEfDUCK
 eBATd=2KfOWLdFOX %jiBUTTERFLYjDEEReGORILLAhLIZ!SgRHINOCEROSkSHRIMPfQUIDfGIRAFFE %jmZEBRA %j
 kHEDGEHOGiSAUROPODiT-REXfC+mKEThK!ZAROOi%<&yPEACOCKhHIPPOPOTA)Am$ZROTg$OCOONhLOBS!.hMOSQUITO
 hICROBEh:DGERgSWANeMAMMOTHhDODOeSLOTHfOTTEReR!ZUTANjSKUNKfF&a!FOiOYS!.gBEA!VfISONfSEALeGUIDE DOG
 j%vB(tANEmEMOJI(uPON:I)%>ni,4>nkBALDe$D>nzB!4e,<d=ceTOOTHfS*hHEROeVILLAINlAFE&hVESTlEAR!E(U!PAID
 uMO(1IZ!H;0%zIRtANU!B;0%zIRqECHAN&iARMd,<o$>;SWEDGElUPCAKEhSALT&KKERlBE!VAGE ,DmGAR*LgON%0fFALAFEL
 hWAFFLEgBUTTERg%=E DR,Xk<SCUBEiBUBB!NTEAk&ZLLfST!l!P=JpKNEEL!P=JpDEAF =Jl+u&qOCLErADULTfCHILD
 fOLD!AADULTlBE!S!H=Jo$vS&B$ASCARFoIN STEAMY ROOMoCLIMB!Fi%)LOT$y?.yMAGEeFAIRYfVAMPIREhMER=JjELF
 dGENIEfZOMBIEgBRA+H]-.omBIL=sCAPkSCARFfGLOVESgCOATeSOCKSf)%GIFT ]ArFI)N$OKERlJIGSAW PUZZ!NPIECE
 tTEST TUBEjPE!5 )zHkDNA !]HELIXq%IPASShABACUSgFIRE EXT!FUISHERrTOOL,DhB+mKfMAGNETgLUGGAGEgO%lBOTTL
 EnSPOOL $mTHREADpBALL $mYARNmSAFE&hPINkTEDDY BEARkBROOMeASKETgROLL $m)^ERn!q OF SOAPlSPONGE
 gRECEIPThNAZ$?AMULETlEUTR!B$>%T]]s.C?P!KTY?f,%?P!KTY?f.w?P!KTY?f.CK!P[5=~[5ROOK [5]z[5,l[5PAWN [4K
 !P[4=~[4ROOK [4]z[4,l[4PAWN [6K!P[6=~[6ROOK [6]z[6,l[6PAWN [5?P!^*<TH);?f,%?P!^*<TH);?f.w?P!^*<TH
 );?f.C%,]]x,%%,]]x.w%,]]+F$>%T~z?f,%~z?f.w~z?f.CK!P:C.C=~:C.CROOK :C.C]z:C.C,l:C.CPAWN :C,%K!P:C,%
 =~:C,%ROOK :C,%]z:C,%,l:C,%PAWN :C.wK!P:C.w=~:C.wROOK :C.w]z:C.w,l:C.wPAWN :C.C?P~],%?P~].w?P~].C
 $BIHOP$vw,%$BIHOP$vw.w$BIHOP$vy.C$BIHOPP!A[4$BIHOPP!A[6$BIHOPP!A[5KN!,-[Wz,%KN!,-[W&:A60zXI!ZQI )%
 GENERALhM!lARINi)*PH&Pi$HSEfCHARIOTgANNONgSOLDIERl$%GENERALhM!lARINi)*PH&Pi$HSEfCHARIOTgANNON
 gSOLDIER&:A70vBALLET;9ESm!4-PIECE SWIMSUITsBRIEFSgSHORTSgTH.X S!lAL&:A78mDROP $mBLOODnADHESI!0+~DA
 GEqSTETHOSCOPElX-RAYfCRUTCH&:A80gYO-YOfKITEe$ZACHUTEjBOOMER!ZjMAG!XW!lkPINATAgNEST!PDOLLS&:A90
 n(a!H%?ETn%zIRfRAZORfAXEdDI,:&aPj+~JOfMI%~<:HELMETpACCORDIONj&VDRUMjCOINdARP!YRY SAWnSCREWDRI!V
 lLADDERg$JeMIRRORgWINDOWgPL%3ERhSEW!PNEEDLEnK)ReBUCKETgMOU)L)_PkTOOTHBR,_k$AST!4jPLAC!ShROCK
 eMIRR%X.TlID,ZFIC$6 C!St%gBAT!.Yl&$SA&:AB0fFLYd+YMeBEETLEgCOCKROACHjPOTT!H%?Tm:GDeFE=QhLOTUSfCORAL
 fEMP&hNESTkNES&sEGGS@1FAC0oANATOM&i.oqL%3SfPEOP!NHUGG!FnREGNANT (md=JoERS&BC.1N&:AD0rBLUEBERRIES
 kELL PEP$vlOLIVEfF!J%EADjTA<^g,tDUEgTEAPOTgP!9!PLIQUIDoBEANSfJAR&:AE0dMELT+pmSALUT+pn+u(I:ES !TH!T
 %D;Cz+uPEEK!P:El&f;Cy+Q&9%jqBIT!P+ejUBB,x&:AF0hH!T!C&M[v!T%2 CROSSED+b%kp$t%ko&=M %N%kj$9%k
 m&M$8)2+,VIEWERz(UT %kS&:B00lB$[%hXTANT-!i12c3b13c23c123d4b14c24c124d34c,*d234d1234e5b15c25c125d35
 c235d1235e45c145d245d1245e345d,*5e2345+6345f6b16c26c126d36c136d236d1236e46c146c246e346d,*6
 e2346+6346f56c156d256d1256e356d1356e2356+6356f456d1456e2456+6456f3456e,*56f23456t.l:y<c*?
 g(V.l:z<c*?g(V.l:z,!*?z..:z_V..:y_V..:y;n*?u$g;n^W+]$0^W,!^W+]$)^W;n^W+]$)(V.l:z+]$),I.l:z;n,I.l:z
 +]$0,I.l:z,!,I.l:z+]$0%tv<c,I;c:y<c*?g(V;c:z<c*?g(V;c:z,!*?.3!n:z_V;::y_V;::y;n*?u$g;n^X+]$0^X,!^X
 +]$)^X;n^X+]$)(V;c:z+]$),I;c:z;n,I;c:z+]$0,I;c:z,!,I;c:z+]$0%tv<c,I$)*:<T.+?=+a<T*:.+?=.3!T!n<T.+
 ?=+a!T$)*:.+?=+a.+[h.3.+[hz!p.+[hz$0.+[hz$7;J-:lb7z&1;J-:lb7+a<T;Jw$);Jz!p!T$);Jw$0;J.3<T;J
 z&1;J-1358.3[hr%1<1t~jz!p[hr%1<1t~j+a%F=gw=1=gx$)%F=gx$0%F=gx=,=gu$)%FBLOCK <T%F=,=g.3%F=,%K&KD
 E <T[o&:B94+a%F=,%K&KDE *:[ozCHECK!ABOARD ;+s=,$>CK!ABOARD ;+z$j&1;+v$),!!p;+y=B.l;+
 y<T.+[o+a*:.+[o.3!n.+=g.3!p.+=gz...+=gz.l.+=g%%%b&f$)+]$g%:e(V]a<c*?u=B$0]n$)+]<c*?u=B$0]n<c+],I]a
 $g;n+],I]a$)+]$g!n!T$g=B$0]n$)+]$g!p!T<c]n$)+]$g=B$0+]$g;&]a$)+]<c+],I]a$g;n+]$g=B$0]n$g=B$)+]<c]n
 )qq&1!C*kz&j>T^Fy=,$>CK !8s=ARUNN!P(mv=1RUNN!P(mw=,=L;%;(Sz$t$&!T$)<T;J+b$&!T$)<T;Jz%u$&*:;J
 z%m$&*:;J+a%F[-q!p%F[-rVOID!H>as!p)o$(!H!_w<0&f)tf$g=B$0*?z<0&f)q+F(C SALTIR$d?X;rSz!n~yz$g~yz!p~y
 z^=,ozS!vK FIGURE(bARMS RA&oDqLEAN!P>Pn!CDRESSx$DUP-$L(tHEV$-&:BF0zSEG&+!H&S@2F800uCJK(uP!wBILIT
 Y *oPH-#,j,j,j,j!a!a!aaaaaa@E0001zL!ZUAGE TAG@E0020mTAG.^f~~&ljC<<L TAG!(00k$aI$6%hLEC(1-17b8b9
 c2>X<N$s10[[20$s.x<L5$I"

end TextProtocol.Text.CharacterName
